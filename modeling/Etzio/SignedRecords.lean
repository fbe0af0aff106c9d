import Mathlib
import Etzio.IntegrityRecords
import Etzio.MerkleProofs
import Etzio.WireRecords

/-!
# Signed records

What the time and revocation adapters and the head-authority adapters share : the checks of
fields, exact dictionaries and canonical records, the roles of the sources, the trusted keys, and
the signed package around a provider statement. A package that is read from bytes has those bytes
(`providerEvidence_bytes`, `headEvidence_bytes`).

Wire records keep the texts of their identities. A typed record holds digests, and the text of one
is `contentIdText`.
-/

open CheckedRun JsonText

namespace Etzio

/-- A refusal of the adapters or of the qualified lifecycle : the three error classes are a reason
code and a message. -/
abbrev AdapterError : Type := HeadAuthorityAdapterError

/-- What the adapters take from Unicode, SHA-256, canonical identities and Ed25519. -/
structure AdapterEnv where
  nfc : String → Bool
  /-- `content_id`. -/
  contentId : String → Json → Digest
  sha256 : ByteArray → Digest
  /-- `is_valid_ed25519_public_key`. -/
  validKey : BitVec 256 → Bool
  /-- Verification of a signature of some bytes under a public key. -/
  verifies : BitVec 256 → List UInt8 → List UInt8 → Bool

variable (E : AdapterEnv)

/-! ## Field checks -/

/-- The text of a key identity. -/
def KeyId.text (keyId : KeyId) : String := "ed25519:" ++ contentIdText keyId.digest

/-- `integrity_key_id`. -/
def AdapterEnv.keyId (publicKey : BitVec 256) : KeyId :=
  ⟨E.sha256 (digestBytes publicKey).toByteArray⟩

/-- `MAX_EPOCH_SECOND`. -/
def maxAdapterEpoch : ℕ := 2 ^ 63 - 1

/-- A text of a pattern. -/
def requireText (value : Json) (pattern : String → Bool) (error : AdapterError) :
    Except AdapterError String := do
  let text ← orRefuse (str? value) error
  refuseIf (pattern text = false) error
  return text

/-- A nonnegative integer up to a bound. -/
def requireNat (value : Json) (upper : ℕ) (error : AdapterError) : Except AdapterError ℕ := do
  let n ← orRefuse (int? value) error
  refuseIf (¬(0 ≤ n ∧ n ≤ upper)) error
  return n.toNat

/-- The value `true`, which equals 1. -/
def isJsonTrue : Json → Bool
  | .bool b => b
  | _ => false

/-- A member of a record whose fields were checked. -/
def field (body : List (String × Json)) (key : String) : Except AdapterError Json :=
  orRefuse (body.lookup key) ⟨"KeyError", key⟩

/-- `_require_exact_dict`. -/
def requireExactDict (value : Json) (fields : List String) (label : String) :
    Except AdapterError (List (String × Json)) := do
  let body ← orRefuse (members? value)
    ⟨"invalid_" ++ label, label ++ " has missing or unknown fields"⟩
  refuseIf (¬((∀ key ∈ body.map Prod.fst, key ∈ fields) ∧ ∀ key ∈ fields, key ∈ body.map Prod.fst))
    ⟨"invalid_" ++ label, label ++ " has missing or unknown fields"⟩
  return body

/-- `_canonical_record_bytes`, with the refusal of its module. -/
def canonicalRecordBytes (error : AdapterError) (body : Json) : Except AdapterError ByteArray :=
  (canonicalDumps E.nfc body).mapError fun _ => error

/-- `_canonical_record_body`. -/
def canonicalRecordBody (error : AdapterError) (data : ByteArray) (fields : List String)
    (label : String) : Except AdapterError (List (String × Json)) := do
  let body ← (strictLoads E.nfc data).mapError fun _ =>
    ⟨"invalid_" ++ label, label ++ " is not strict canonical JSON"⟩
  let body ← requireExactDict body fields label
  let wire ← canonicalRecordBytes E error (.obj body)
  refuseIf (wire ≠ data) ⟨"invalid_" ++ label, label ++ " bytes are noncanonical"⟩
  return body

/-! ## Roles and keys -/

/-- The roles of the sources, `INTEGRITY_ADAPTER_ROLES_V1` and
`HEAD_AUTHORITY_ADAPTER_ROLES_V1`. -/
inductive AdapterRole
  | trustedTime
  | revocationMetadata
  | revocationFloor
  | headAnchor
  | headCatalog
  | headMonitor
  deriving DecidableEq, Repr

def integrityAdapterRolesV1 : List AdapterRole :=
  [.trustedTime, .revocationMetadata, .revocationFloor]

def headAuthorityAdapterRolesV1 : List AdapterRole := [.headAnchor, .headCatalog, .headMonitor]

def AdapterRole.text : AdapterRole → String
  | .trustedTime => "trusted_time"
  | .revocationMetadata => "revocation_metadata"
  | .revocationFloor => "revocation_floor"
  | .headAnchor => "head_anchor"
  | .headCatalog => "head_catalog"
  | .headMonitor => "head_monitor"

/-- `_ROLE_TO_EVIDENCE_KIND_V1`. -/
def AdapterRole.evidenceKind : AdapterRole → EvidenceKind
  | .trustedTime => .trustedTime
  | .revocationMetadata => .revocationMetadata
  | .headAnchor => .headAnchorReceipt
  | .revocationFloor | .headCatalog | .headMonitor => .externalFloor

/-- `_ROLE_TO_CODEC_V1`. -/
def AdapterRole.codecProfile : AdapterRole → String
  | .trustedTime => "etzio.fixture.signed-time.v1"
  | .revocationMetadata => "etzio.fixture.signed-revocation-metadata.v1"
  | .revocationFloor => "etzio.fixture.signed-revocation-floor.v1"
  | .headAnchor => "etzio.fixture.signed-anchor-receipt.v1"
  | .headCatalog => "etzio.fixture.signed-head-catalog.v2"
  | .headMonitor => "etzio.fixture.signed-head-monitor.v1"

/-- `_ROLE_SIGNATURE_DOMAINS_V1`. -/
def AdapterRole.signatureDomain (role : AdapterRole) : List UInt8 :=
  let name := match role with
    | .trustedTime => "trusted-time"
    | .revocationMetadata => "revocation-metadata"
    | .revocationFloor => "revocation-floor"
    | .headAnchor => "head-anchor"
    | .headCatalog => "head-catalog"
    | .headMonitor => "head-monitor"
  asciiBytes ("etzio.integrity-adapter." ++ name ++ ".signature.v1") ++ [0]

/-- The role of a family that a value names. -/
def role? (roles : List AdapterRole) (value : Json) : Option AdapterRole := do
  let text ← str? value
  roles.find? fun role => role.text = text

/-- `TrustedAdapterKeyV1` and `TrustedHeadAuthorityKeyV1`. -/
structure TrustedAdapterKeyV1 where
  sourceId : String
  principalId : String
  role : AdapterRole
  publicKey : BitVec 256
  deriving DecidableEq, Repr

/-- `TrustedAdapterKeyV1.key_id`. -/
def TrustedAdapterKeyV1.keyId (key : TrustedAdapterKeyV1) : KeyId := E.keyId key.publicKey

/-- `TrustedAdapterKeyV1.to_body`. -/
def TrustedAdapterKeyV1.toBody (key : TrustedAdapterKeyV1) : Json :=
  .obj [("key_id", .str (key.keyId E).text), ("principal_id", .str key.principalId),
    ("public_key_b64", .str (base64Text (digestBytes key.publicKey))),
    ("role", .str key.role.text), ("source_id", .str key.sourceId)]

/-- `IntegrityAdapterTrustStoreV1` and `HeadAuthorityTrustStoreV1`, in the order of their
identities. -/
structure AdapterTrustStoreV1 where
  keys : List TrustedAdapterKeyV1
  revokedKeyIds : List KeyId
  deriving DecidableEq, Repr

/-- `trust_store.keys.get(key_id)`. -/
def AdapterTrustStoreV1.key (store : AdapterTrustStoreV1) (keyId : String) :
    Option TrustedAdapterKeyV1 :=
  store.keys.find? fun key => (key.keyId E).text = keyId

/-- `to_body` of a trust store. -/
def AdapterTrustStoreV1.toBody (store : AdapterTrustStoreV1) : Json :=
  .obj [("keys", .arr (store.keys.map (TrustedAdapterKeyV1.toBody E))),
    ("revoked_key_ids", .arr (store.revokedKeyIds.map fun keyId => .str keyId.text))]

/-- `IntegrityValidationPolicyV1.to_body`. -/
def IntegrityValidationPolicyV1.toBody (policy : IntegrityValidationPolicyV1) : Json :=
  .obj [("anchor_policy_id", .str (contentIdText policy.anchorPolicyId)),
    ("checkpoint_time_policy_id", .str (contentIdText policy.checkpointTimePolicyId)),
    ("decision_policy_id", .str (contentIdText policy.decisionPolicyId)),
    ("decision_time_policy_id", .str (contentIdText policy.decisionTimePolicyId)),
    ("max_checkpoint_uncertainty_seconds", .int policy.maxCheckpointUncertaintySeconds),
    ("max_decision_uncertainty_seconds", .int policy.maxDecisionUncertaintySeconds),
    ("required_revocation_namespaces", .arr (policy.requiredRevocationNamespaces.map .str))]

/-! ## References -/

/-- `EvidenceReferenceV1.to_body`. -/
def EvidenceReferenceV1.toBody (r : EvidenceReferenceV1) : Json :=
  .obj [("evidence_id", .str (contentIdText r.evidenceId)),
    ("evidence_kind", .str r.evidenceKind.text), ("source_id", .str r.sourceId)]

/-- The canonical order of references : kind, source, identity. -/
def EvidenceReferenceV1.Before (a b : EvidenceReferenceV1) : Prop :=
  a.evidenceKind.text < b.evidenceKind.text ∨ a.evidenceKind = b.evidenceKind ∧
    (a.sourceId < b.sourceId ∨ a.sourceId = b.sourceId ∧ a.evidenceId < b.evidenceId)

instance (a b : EvidenceReferenceV1) : Decidable (a.Before b) :=
  inferInstanceAs (Decidable (_ ∨ _))

/-- `MAX_PROVIDER_EVIDENCE_BLOB_BYTES_V1`. -/
def maxProviderEvidenceBlobBytesV1 : ℕ := 1024 * 1024

/-- `ProviderEvidenceBlobV1.from_content`. -/
def ProviderEvidenceBlobV1.fromContent (evidenceKind : EvidenceKind) (sourceId : String)
    (content : ByteArray) : Except AdapterError ProviderEvidenceBlobV1 := do
  refuseIf (content.size = 0 ∨ content.size > maxProviderEvidenceBlobBytesV1)
    ⟨"invalid_provider_evidence_blob",
      "provider evidence must be a nonempty bounded immutable BLOB"⟩
  return ⟨evidenceKind, sourceId, E.sha256 content, content.data.toList⟩

/-! ## Statements and signed packages -/

/-- `ProviderEvidenceStatementV1` and `HeadProviderStatementV1`. -/
structure ProviderStatementV1 where
  profileId : String
  trustRootId : String
  serviceInstanceId : String
  environmentId : String
  sourceId : String
  evidenceRole : AdapterRole
  providerPolicyId : String
  requestId : String
  claim : List (String × Json)

/-- `_STATEMENT_FIELDS`. -/
def statementFields : List String :=
  ["claim", "contract_version", "environment_id", "evidence_role", "profile_id",
    "provider_policy_id", "request_id", "service_instance_id", "source_id", "trust_root_id"]

/-- `to_body` of a statement of contract version 1. -/
def ProviderStatementV1.toBody (s : ProviderStatementV1) : Json :=
  .obj [("claim", .obj s.claim), ("contract_version", .int 1),
    ("environment_id", .str s.environmentId), ("evidence_role", .str s.evidenceRole.text),
    ("profile_id", .str s.profileId), ("provider_policy_id", .str s.providerPolicyId),
    ("request_id", .str s.requestId), ("service_instance_id", .str s.serviceInstanceId),
    ("source_id", .str s.sourceId), ("trust_root_id", .str s.trustRootId)]

/-- `MAX_ADAPTER_PACKAGE_BYTES_V1` and `MAX_HEAD_PACKAGE_BYTES_V1`. -/
def maxPackageBytes : ℕ := 1024 * 1024

/-- `SignedProviderEvidenceV1` and `SignedHeadEvidenceV1`, of the algorithm `ed25519`. -/
structure SignedEvidenceV1 where
  evidenceRole : AdapterRole
  keyId : String
  statementBytes : ByteArray
  signatureBytes : List UInt8

/-- `_SIGNED_EVIDENCE_FIELDS`. -/
def signedEvidenceFields : List String :=
  ["algorithm", "evidence_role", "key_id", "signature_b64", "statement_b64"]

/-- `to_body` of a signed package. -/
def SignedEvidenceV1.toBody (signed : SignedEvidenceV1) : Json :=
  .obj [("algorithm", .str "ed25519"), ("evidence_role", .str signed.evidenceRole.text),
    ("key_id", .str signed.keyId),
    ("signature_b64", .str (base64Text signed.signatureBytes)),
    ("statement_b64", .str (base64Text signed.statementBytes.data.toList))]

/-! ### Time and revocation packages -/

/-- The refusal of `_canonical_record_bytes` of the time and revocation adapters. -/
def adapterRecordError : AdapterError :=
  ⟨"invalid_adapter_record", "adapter record cannot be represented as canonical JSON"⟩

/-- `_require_identity`. -/
def requireAdapterIdentity (value : Json) (name : String) : Except AdapterError String :=
  requireText value isAdapterIdentity
    ⟨"invalid_adapter_identity", name ++ " must be a bounded ASCII identity"⟩

/-- `_require_digest`. -/
def requireAdapterDigest (value : Json) (name : String) : Except AdapterError String :=
  requireText value isContentId
    ⟨"invalid_adapter_digest", name ++ " must be a full SHA-256 content identity"⟩

/-- `_require_key_id`. -/
def requireAdapterKeyId (value : Json) (name : String) : Except AdapterError String :=
  requireText value isKeyId
    ⟨"invalid_adapter_key_id", name ++ " must be a canonical Ed25519 key identity"⟩

/-- `_require_nonnegative_int` and `_require_epoch`. -/
def requireAdapterEpoch (value : Json) (name : String) : Except AdapterError ℕ :=
  requireNat value maxAdapterEpoch
    ⟨"invalid_adapter_integer", name ++ " must be a nonnegative signed-int64 integer"⟩

/-- `_require_positive_int`. -/
def requireAdapterPositive (value : Json) (name : String) : Except AdapterError ℕ := do
  let n ← requireAdapterEpoch value name
  refuseIf (n = 0) ⟨"invalid_adapter_integer", name ++ " must be positive"⟩
  return n

/-- `_decode_b64` of the time and revocation adapters. -/
def decodeAdapterB64 (value : Json) (name : String) (maximum : ℕ) :
    Except AdapterError (List UInt8) := do
  let bounded : AdapterError :=
    ⟨"invalid_adapter_base64", name ++ " is not bounded canonical Base64"⟩
  let text ← orRefuse (str? value) bounded
  refuseIf (text.length = 0 ∨ text.length > (maximum + 2) / 3 * 4) bounded
  let decoded ← orRefuse (Base64.decode text.toList)
    ⟨"invalid_adapter_base64", name ++ " is not canonical Base64"⟩
  refuseIf (decoded = [] ∨ decoded.length > maximum ∨ base64Text decoded ≠ text) bounded
  return decoded

/-- `SignedProviderEvidenceV1.to_canonical_bytes`. -/
def providerEvidenceBytes (signed : SignedEvidenceV1) : Except AdapterError ByteArray :=
  canonicalRecordBytes E adapterRecordError signed.toBody

/-- `SignedProviderEvidenceV1.from_canonical_bytes`, with the checks of `__post_init__`. -/
def providerEvidenceOf (data : ByteArray) : Except AdapterError SignedEvidenceV1 := do
  let body ← canonicalRecordBody E adapterRecordError data signedEvidenceFields
    "signed_provider_evidence"
  let signature ← field body "signature_b64"
  let signatureBytes ← decodeAdapterB64 signature "signature_b64" 64
  let statement ← field body "statement_b64"
  let statementBytes ← decodeAdapterB64 statement "statement_b64" maxPackageBytes
  let role ← field body "evidence_role"
  let evidenceRole ← orRefuse (role? integrityAdapterRolesV1 role)
    ⟨"invalid_signed_provider_evidence", "signed provider evidence has an unsupported role"⟩
  let keyId ← field body "key_id"
  let keyId ← requireAdapterKeyId keyId "key_id"
  let algorithm ← field body "algorithm"
  refuseIf (str? algorithm ≠ some "ed25519")
    ⟨"unsupported_provider_algorithm", "signed provider evidence requires exact Ed25519"⟩
  refuseIf (signatureBytes.length ≠ 64)
    ⟨"invalid_signed_provider_evidence",
      "provider statement or signature bytes are malformed or unbounded"⟩
  return ⟨evidenceRole, keyId, statementBytes.toByteArray, signatureBytes⟩

/-- `ProviderEvidenceStatementV1.from_canonical_bytes`, with the checks of `__post_init__`. -/
def providerStatementOf (data : ByteArray) : Except AdapterError ProviderStatementV1 := do
  let body ← canonicalRecordBody E adapterRecordError data statementFields "provider_statement"
  let version ← field body "contract_version"
  refuseIf (int? version ≠ some 1)
    ⟨"invalid_provider_statement", "provider statement requires adapter contract V1"⟩
  let profileId ← field body "profile_id"
  let profileId ← requireAdapterDigest profileId "profile_id"
  let trustRootId ← field body "trust_root_id"
  let trustRootId ← requireAdapterDigest trustRootId "trust_root_id"
  let providerPolicyId ← field body "provider_policy_id"
  let providerPolicyId ← requireAdapterDigest providerPolicyId "provider_policy_id"
  let requestId ← field body "request_id"
  let requestId ← requireAdapterDigest requestId "request_id"
  let serviceInstanceId ← field body "service_instance_id"
  let serviceInstanceId ← requireAdapterIdentity serviceInstanceId "service_instance_id"
  let environmentId ← field body "environment_id"
  let environmentId ← requireAdapterIdentity environmentId "environment_id"
  let sourceId ← field body "source_id"
  let sourceId ← requireAdapterIdentity sourceId "source_id"
  let role ← field body "evidence_role"
  let evidenceRole ← orRefuse (role? integrityAdapterRolesV1 role)
    ⟨"invalid_provider_statement", "provider statement has an unsupported role"⟩
  let claim ← field body "claim"
  let claim ← orRefuse (members? claim)
    ⟨"invalid_provider_claim", "provider_claim must be an exact JSON object"⟩
  return {
    profileId, trustRootId, serviceInstanceId, environmentId, sourceId, evidenceRole
    providerPolicyId, requestId, claim }

/-! ### Head packages -/

/-- The refusal of `_canonical_record_bytes` of the head-authority adapters. -/
def headRecordError : AdapterError :=
  ⟨"invalid_head_record", "head-authority record cannot be represented as canonical JSON"⟩

/-- `_require_identity` of the head-authority adapters. -/
def requireHeadIdentity (value : Json) (name : String) : Except AdapterError String :=
  requireText value isAdapterIdentity
    ⟨"invalid_head_identity", name ++ " must be one bounded ASCII identity"⟩

/-- `_require_digest` of the head-authority adapters. -/
def requireHeadDigest (value : Json) (name : String) : Except AdapterError String :=
  requireText value isContentId
    ⟨"invalid_head_digest", name ++ " must be one sha256 content digest"⟩

/-- `_require_key_id` of the head-authority adapters. -/
def requireHeadKeyId (value : Json) (name : String) : Except AdapterError String :=
  requireText value isKeyId
    ⟨"invalid_head_key_id", name ++ " must be one ed25519 key identity"⟩

/-- `_decode_b64` of the head-authority adapters. -/
def decodeHeadB64 (value : Json) (name : String) (maximum : ℕ) :
    Except AdapterError (List UInt8) := do
  let text ← orRefuse (str? value)
    ⟨"invalid_head_base64", name ++ " must be one Base64 string"⟩
  let decoded ← orRefuse (Base64.decode text.toList)
    ⟨"invalid_head_base64", name ++ " is not strict Base64"⟩
  refuseIf (base64Text decoded ≠ text)
    ⟨"invalid_head_base64", name ++ " is not canonical Base64"⟩
  refuseIf (decoded = [] ∨ decoded.length > maximum)
    ⟨"invalid_head_base64", name ++ " must decode to bounded nonempty bytes"⟩
  return decoded

/-- `SignedHeadEvidenceV1.to_canonical_bytes`. -/
def headEvidenceBytes (signed : SignedEvidenceV1) : Except AdapterError ByteArray :=
  canonicalRecordBytes E headRecordError signed.toBody

/-- `SignedHeadEvidenceV1.from_canonical_bytes`, with the checks of `__post_init__`. -/
def headEvidenceOf (data : ByteArray) : Except AdapterError SignedEvidenceV1 := do
  let body ← canonicalRecordBody E headRecordError data signedEvidenceFields
    "signed_head_evidence"
  let statement ← field body "statement_b64"
  let statementBytes ← decodeHeadB64 statement "statement_b64" maxPackageBytes
  let signature ← field body "signature_b64"
  let signatureBytes ← decodeHeadB64 signature "signature_b64" 64
  let role ← field body "evidence_role"
  let evidenceRole ← orRefuse (role? headAuthorityAdapterRolesV1 role)
    ⟨"invalid_head_role", "signed evidence has an unsupported role"⟩
  let keyId ← field body "key_id"
  let keyId ← requireHeadKeyId keyId "key_id"
  let algorithm ← field body "algorithm"
  refuseIf (str? algorithm ≠ some "ed25519")
    ⟨"unsupported_head_algorithm",
      "signed head evidence must declare the exact ed25519 algorithm"⟩
  refuseIf (signatureBytes.length ≠ 64)
    ⟨"invalid_signed_head_evidence",
      "signed head evidence requires a 64-byte Ed25519 signature"⟩
  return ⟨evidenceRole, keyId, statementBytes.toByteArray, signatureBytes⟩

/-- `HeadProviderStatementV1.from_canonical_bytes`, with the checks of `__post_init__`, which
compare the version to 1. -/
def headStatementOf (data : ByteArray) : Except AdapterError ProviderStatementV1 := do
  let body ← canonicalRecordBody E headRecordError data statementFields "head_provider_statement"
  let version ← field body "contract_version"
  refuseIf (¬(int? version = some 1 ∨ isJsonTrue version = true))
    ⟨"invalid_head_profile_version",
      "provider statement requires the exact V1 contract version"⟩
  let profileId ← field body "profile_id"
  let profileId ← requireHeadDigest profileId "profile_id"
  let trustRootId ← field body "trust_root_id"
  let trustRootId ← requireHeadDigest trustRootId "trust_root_id"
  let providerPolicyId ← field body "provider_policy_id"
  let providerPolicyId ← requireHeadDigest providerPolicyId "provider_policy_id"
  let requestId ← field body "request_id"
  let requestId ← requireHeadDigest requestId "request_id"
  let serviceInstanceId ← field body "service_instance_id"
  let serviceInstanceId ← requireHeadIdentity serviceInstanceId "service_instance_id"
  let environmentId ← field body "environment_id"
  let environmentId ← requireHeadIdentity environmentId "environment_id"
  let sourceId ← field body "source_id"
  let sourceId ← requireHeadIdentity sourceId "source_id"
  let role ← field body "evidence_role"
  let evidenceRole ← orRefuse (role? headAuthorityAdapterRolesV1 role)
    ⟨"invalid_head_role", "provider statement has an unsupported role"⟩
  let claim ← field body "claim"
  let claim ← orRefuse (members? claim)
    ⟨"invalid_head_provider_statement", "provider claim must be a JSON object"⟩
  return {
    profileId, trustRootId, serviceInstanceId, environmentId, sourceId, evidenceRole
    providerPolicyId, requestId, claim }

/-! ## Packages and their bytes -/

section Packages

variable {E}

/-- What `_canonical_record_body` accepts : a record of exactly the fields, in their order, whose
canonical bytes are the ones read. -/
theorem canonicalRecordBody_spec {error : AdapterError} {data : ByteArray} {fields : List String}
    {label : String} {body : List (String × Json)} (hfields : fields.Pairwise (· < ·))
    (hbody : canonicalRecordBody E error data fields label = .ok body) :
    body.map Prod.fst = fields ∧ canonicalDumps E.nfc (.obj body) = .ok data := by
  obtain ⟨value, hvalue, hrest⟩ := bind_eq_ok.mp hbody
  obtain ⟨members, hmembers, hrest⟩ := bind_eq_ok.mp hrest
  obtain ⟨wire, hwire, hrest⟩ := bind_eq_ok.mp hrest
  obtain ⟨hsame, hreturn⟩ := unit_bind_eq_ok.mp hrest
  obtain rfl := Except.ok.inj hreturn
  obtain ⟨inner, hinner, hrest⟩ := orRefuse_bind_eq_ok.mp hmembers
  obtain ⟨hexact, hreturn⟩ := unit_bind_eq_ok.mp hrest
  obtain rfl := Except.ok.inj hreturn
  rw [refuseIf_eq_ok, not_not] at hexact hsame
  obtain rfl := members?_eq_some.mp hinner
  obtain rfl := hsame
  refine ⟨?_, mapError_eq_ok.mp hwire⟩
  obtain ⟨hadmitted, -⟩ := normalized_spec (strictLoads_spec (mapError_eq_ok.mp hvalue)).1
  cases hadmitted with
  | obj _ _ _ hsorted _ =>
    refine eq_of_strictly_sorted (List.pairwise_map.mpr hsorted) hfields fun key => ?_
    exact ⟨hexact.1 key, hexact.2 key⟩

theorem str?_eq_some {v : Json} {text : String} : str? v = some text ↔ v = .str text := by
  cases v <;> simp [str?]

theorem requireText_eq_ok {value : Json} {pattern : String → Bool} {error : AdapterError}
    {text : String} : requireText value pattern error = .ok text ↔
      value = .str text ∧ pattern text = true := by
  rw [requireText, orRefuse_bind_eq_ok]
  simp only [str?_eq_some, unit_bind_eq_ok, refuseIf_eq_ok, Bool.not_eq_false, pure, Except.pure,
    Except.ok.injEq]
  constructor
  · rintro ⟨t, rfl, hpattern, rfl⟩
    exact ⟨rfl, hpattern⟩
  · rintro ⟨rfl, hpattern⟩
    exact ⟨text, rfl, hpattern, rfl⟩

theorem role?_eq_some {roles : List AdapterRole} {value : Json} {role : AdapterRole}
    (h : role? roles value = some role) : value = .str role.text ∧ role ∈ roles := by
  obtain ⟨text, htext, hfind⟩ := Option.bind_eq_some_iff.mp h
  obtain rfl := str?_eq_some.mp htext
  have hrole := List.find?_some hfind
  exact ⟨by rw [of_decide_eq_true hrole], List.mem_of_find?_eq_some hfind⟩

theorem decodeAdapterB64_eq_ok {value : Json} {name : String} {maximum : ℕ}
    {decoded : List UInt8} (h : decodeAdapterB64 value name maximum = .ok decoded) :
    value = .str (base64Text decoded) ∧ decoded ≠ [] ∧ decoded.length ≤ maximum := by
  obtain ⟨text, htext, hrest⟩ := orRefuse_bind_eq_ok.mp h
  obtain ⟨-, hrest⟩ := unit_bind_eq_ok.mp hrest
  obtain ⟨bytes, -, hrest⟩ := orRefuse_bind_eq_ok.mp hrest
  obtain ⟨hsame, hreturn⟩ := unit_bind_eq_ok.mp hrest
  obtain rfl := Except.ok.inj hreturn
  rw [refuseIf_eq_ok] at hsame
  push Not at hsame
  exact ⟨hsame.2.2 ▸ str?_eq_some.mp htext, hsame.1, hsame.2.1⟩

theorem decodeHeadB64_eq_ok {value : Json} {name : String} {maximum : ℕ}
    {decoded : List UInt8} (h : decodeHeadB64 value name maximum = .ok decoded) :
    value = .str (base64Text decoded) ∧ decoded ≠ [] ∧ decoded.length ≤ maximum := by
  obtain ⟨text, htext, hrest⟩ := orRefuse_bind_eq_ok.mp h
  obtain ⟨bytes, -, hrest⟩ := orRefuse_bind_eq_ok.mp hrest
  obtain ⟨hsame, hrest⟩ := unit_bind_eq_ok.mp hrest
  obtain ⟨hbounds, hreturn⟩ := unit_bind_eq_ok.mp hrest
  obtain rfl := Except.ok.inj hreturn
  rw [refuseIf_eq_ok, not_not] at hsame
  rw [refuseIf_eq_ok] at hbounds
  push Not at hbounds
  exact ⟨hsame ▸ str?_eq_some.mp htext, hbounds⟩

/-- A record with the members of a signed package is the body of the package. -/
theorem signedEvidence_body {body : List (String × Json)} {role : AdapterRole} {keyId : String}
    {statement signature : List UInt8} (hkeys : body.map Prod.fst = signedEvidenceFields)
    (halgorithm : body.lookup "algorithm" = some (.str "ed25519"))
    (hrole : body.lookup "evidence_role" = some (.str role.text))
    (hkeyId : body.lookup "key_id" = some (.str keyId))
    (hsignature : body.lookup "signature_b64" = some (.str (base64Text signature)))
    (hstatement : body.lookup "statement_b64" = some (.str (base64Text statement))) :
    SignedEvidenceV1.toBody ⟨role, keyId, statement.toByteArray, signature⟩ = .obj body := by
  simp only [signedEvidenceFields, List.map_eq_cons_iff, List.map_eq_nil_iff] at hkeys
  obtain ⟨⟨k, a⟩, _, rfl, rfl, ⟨k, r⟩, _, rfl, rfl, ⟨k, i⟩, _, rfl, rfl, ⟨k, g⟩, _, rfl, rfl,
    ⟨k, t⟩, _, rfl, rfl, rfl⟩ := hkeys
  obtain rfl : a = .str "ed25519" := by simpa [List.lookup] using halgorithm
  obtain rfl : r = .str role.text := by simpa [List.lookup] using hrole
  obtain rfl : i = .str keyId := by simpa [List.lookup] using hkeyId
  obtain rfl : g = .str (base64Text signature) := by simpa [List.lookup] using hsignature
  obtain rfl : t = .str (base64Text statement) := by simpa [List.lookup] using hstatement
  simp [SignedEvidenceV1.toBody]

theorem field_eq_ok {body : List (String × Json)} {key : String} {value : Json} :
    field body key = .ok value ↔ body.lookup key = some value := by
  rw [field, orRefuse_eq_ok]

/-- A time or revocation package that is read from bytes has those bytes. -/
theorem providerEvidence_bytes {data : ByteArray} {signed : SignedEvidenceV1}
    (h : providerEvidenceOf E data = .ok signed) : providerEvidenceBytes E signed = .ok data := by
  obtain ⟨body, hbody, hrest⟩ := bind_eq_ok.mp h
  obtain ⟨hkeys, hdumps⟩ := canonicalRecordBody_spec (by decide) hbody
  obtain ⟨signature, hsignature, hrest⟩ := bind_eq_ok.mp hrest
  obtain ⟨signatureBytes, hsignatureBytes, hrest⟩ := bind_eq_ok.mp hrest
  obtain ⟨statement, hstatement, hrest⟩ := bind_eq_ok.mp hrest
  obtain ⟨statementBytes, hstatementBytes, hrest⟩ := bind_eq_ok.mp hrest
  obtain ⟨role, hrole, hrest⟩ := bind_eq_ok.mp hrest
  obtain ⟨evidenceRole, hevidenceRole, hrest⟩ := orRefuse_bind_eq_ok.mp hrest
  obtain ⟨keyId, hkeyId, hrest⟩ := bind_eq_ok.mp hrest
  obtain ⟨keyText, hkeyText, hrest⟩ := bind_eq_ok.mp hrest
  obtain ⟨algorithm, halgorithm, hrest⟩ := bind_eq_ok.mp hrest
  obtain ⟨hed25519, hrest⟩ := unit_bind_eq_ok.mp hrest
  obtain ⟨-, hreturn⟩ := unit_bind_eq_ok.mp hrest
  obtain rfl := Except.ok.inj hreturn
  rw [field_eq_ok] at hsignature hstatement hrole hkeyId halgorithm
  obtain ⟨rfl, -⟩ := decodeAdapterB64_eq_ok hsignatureBytes
  obtain ⟨rfl, -⟩ := decodeAdapterB64_eq_ok hstatementBytes
  obtain ⟨rfl, -⟩ := role?_eq_some hevidenceRole
  obtain ⟨rfl, -⟩ := requireText_eq_ok.mp hkeyText
  rw [refuseIf_eq_ok, not_not, str?_eq_some] at hed25519
  obtain rfl := hed25519
  rw [providerEvidenceBytes, canonicalRecordBytes, mapError_eq_ok,
    signedEvidence_body hkeys halgorithm hrole hkeyId hsignature hstatement]
  exact hdumps

/-- A head package that is read from bytes has those bytes. -/
theorem headEvidence_bytes {data : ByteArray} {signed : SignedEvidenceV1}
    (h : headEvidenceOf E data = .ok signed) : headEvidenceBytes E signed = .ok data := by
  obtain ⟨body, hbody, hrest⟩ := bind_eq_ok.mp h
  obtain ⟨hkeys, hdumps⟩ := canonicalRecordBody_spec (by decide) hbody
  obtain ⟨statement, hstatement, hrest⟩ := bind_eq_ok.mp hrest
  obtain ⟨statementBytes, hstatementBytes, hrest⟩ := bind_eq_ok.mp hrest
  obtain ⟨signature, hsignature, hrest⟩ := bind_eq_ok.mp hrest
  obtain ⟨signatureBytes, hsignatureBytes, hrest⟩ := bind_eq_ok.mp hrest
  obtain ⟨role, hrole, hrest⟩ := bind_eq_ok.mp hrest
  obtain ⟨evidenceRole, hevidenceRole, hrest⟩ := orRefuse_bind_eq_ok.mp hrest
  obtain ⟨keyId, hkeyId, hrest⟩ := bind_eq_ok.mp hrest
  obtain ⟨keyText, hkeyText, hrest⟩ := bind_eq_ok.mp hrest
  obtain ⟨algorithm, halgorithm, hrest⟩ := bind_eq_ok.mp hrest
  obtain ⟨hed25519, hrest⟩ := unit_bind_eq_ok.mp hrest
  obtain ⟨-, hreturn⟩ := unit_bind_eq_ok.mp hrest
  obtain rfl := Except.ok.inj hreturn
  rw [field_eq_ok] at hsignature hstatement hrole hkeyId halgorithm
  obtain ⟨rfl, -⟩ := decodeHeadB64_eq_ok hsignatureBytes
  obtain ⟨rfl, -⟩ := decodeHeadB64_eq_ok hstatementBytes
  obtain ⟨rfl, -⟩ := role?_eq_some hevidenceRole
  obtain ⟨rfl, -⟩ := requireText_eq_ok.mp hkeyText
  rw [refuseIf_eq_ok, not_not, str?_eq_some] at hed25519
  obtain rfl := hed25519
  rw [headEvidenceBytes, canonicalRecordBytes, mapError_eq_ok,
    signedEvidence_body hkeys halgorithm hrole hkeyId hsignature hstatement]
  exact hdumps

/-! ## Packages that are written -/

/-- A record that is written in its own normal form is read back. -/
theorem canonicalRecordBody_eq_ok {error : AdapterError} {data : ByteArray} {fields : List String}
    {label : String} {body : List (String × Json)}
    (hdumps : canonicalDumps E.nfc (.obj body) = .ok data)
    (hnormal : normalForm (.obj body) = .obj body) (hfields : body.map Prod.fst = fields) :
    canonicalRecordBody E error data fields label = .ok body := by
  have hload : strictLoads E.nfc data = .ok (.obj body) :=
    (strictLoads_canonicalDumps hdumps).trans (congrArg _ hnormal)
  have hexact : requireExactDict (.obj body) fields label = .ok body := by
    subst hfields
    rw [requireExactDict, members?_obj, bind_of_ok (orRefuse_eq_ok.mpr rfl),
      refuseIf_bind_of_not (not_not.mpr ⟨fun _ h => h, fun _ h => h⟩)]
    rfl
  rw [canonicalRecordBody, bind_of_ok (mapError_eq_ok.mpr hload), bind_of_ok hexact,
    canonicalRecordBytes, bind_of_ok (mapError_eq_ok.mpr hdumps),
    refuseIf_bind_of_not (not_not.mpr rfl)]
  rfl

/-- The Base64 text of bounded bytes is decoded. -/
theorem decodeAdapterB64_text {bytes : List UInt8} {name : String} {maximum : ℕ}
    (hne : bytes ≠ []) (hle : bytes.length ≤ maximum) :
    decodeAdapterB64 (.str (base64Text bytes)) name maximum = .ok bytes := by
  have hlength : (base64Text bytes).length = (bytes.length + 2) / 3 * 4 := by
    rw [base64Text, String.length_ofList, Base64.length_encode]
  have hpos := List.length_pos_iff.mpr hne
  have hdecode : Base64.decode (base64Text bytes).toList = some bytes := by
    rw [base64Text, String.toList_ofList, Base64.decode_encode]
  rw [decodeAdapterB64, bind_of_ok (orRefuse_eq_ok.mpr (str?_eq_some.mpr rfl)),
    refuseIf_bind_of_not (by omega), bind_of_ok (orRefuse_eq_ok.mpr hdecode),
    refuseIf_bind_of_not (by simp [hne, hle])]
  rfl

theorem requireText_bind {pattern : String → Bool} {error : AdapterError} {text : String}
    {β : Type} (h : pattern text = true) (f : String → Except AdapterError β) :
    (requireText (.str text) pattern error >>= f) = f text :=
  bind_of_ok (requireText_eq_ok.mpr ⟨rfl, h⟩)

theorem role?_text {roles : List AdapterRole} {role : AdapterRole} (h : role ∈ roles) :
    role? roles (.str role.text) = some role := by
  have hinj : ∀ a b : AdapterRole, a.text = b.text → a = b := by
    intro a b
    cases a <;> cases b <;> decide
  obtain ⟨found, hfound⟩ : ∃ found, roles.find? (fun r => r.text = role.text) = some found :=
    Option.isSome_iff_exists.mp (List.find?_isSome.mpr ⟨role, h, by simp⟩)
  have hsame : found.text = role.text := by simpa using List.find?_some hfound
  rw [role?, str?]
  exact hfound.trans (congrArg some (hinj _ _ hsame))

theorem toByteArray_data (bytes : ByteArray) : bytes.data.toList.toByteArray = bytes := by
  refine ByteArray.ext ?_
  rw [List.data_toByteArray, Array.toArray_toList]

/-- A time or revocation package is read back from its bytes. -/
theorem providerEvidence_read {signed : SignedEvidenceV1} {wire : ByteArray}
    (hwire : providerEvidenceBytes E signed = .ok wire)
    (hrole : signed.evidenceRole ∈ integrityAdapterRolesV1) (hkeyId : isKeyId signed.keyId = true)
    (hsignature : signed.signatureBytes.length = 64) (hne : signed.statementBytes.size ≠ 0)
    (hsize : signed.statementBytes.size ≤ maxPackageBytes) :
    providerEvidenceOf E wire = .ok signed := by
  rw [providerEvidenceBytes, canonicalRecordBytes, mapError_eq_ok] at hwire
  have hnormal : normalForm signed.toBody = signed.toBody := by
    simp [SignedEvidenceV1.toBody, normalForm, normalFormMembers, setItem, sortMembers]
  have hsign : signed.signatureBytes ≠ [] := by
    rintro h
    simp [h] at hsignature
  have hstatement : signed.statementBytes.data.toList ≠ [] := by
    intro h
    exact hne (by rw [← ByteArray.size_data, ← Array.length_toList, h, List.length_nil])
  have hlength : signed.statementBytes.data.toList.length ≤ maxPackageBytes := by
    rwa [Array.length_toList, ByteArray.size_data]
  have hrecord : canonicalRecordBody E adapterRecordError wire signedEvidenceFields
      "signed_provider_evidence" = .ok [("algorithm", .str "ed25519"),
        ("evidence_role", .str signed.evidenceRole.text), ("key_id", .str signed.keyId),
        ("signature_b64", .str (base64Text signed.signatureBytes)),
        ("statement_b64", .str (base64Text signed.statementBytes.data.toList))] :=
    canonicalRecordBody_eq_ok hwire hnormal rfl
  rw [providerEvidenceOf, bind_of_ok hrecord]
  simp only [field, List.lookup, String.reduceBEq, orRefuse_some_bind]
  rw [bind_of_ok (decodeAdapterB64_text hsign hsignature.le),
    bind_of_ok (decodeAdapterB64_text hstatement hlength),
    bind_of_ok (orRefuse_eq_ok.mpr (role?_text hrole)), requireAdapterKeyId,
    requireText_bind hkeyId, refuseIf_bind_of_not (not_not.mpr (str?_eq_some.mpr rfl)),
    refuseIf_bind_of_not (not_not.mpr hsignature)]
  rw [toByteArray_data]
  rfl

/-- The texts of a statement have the patterns of their fields. -/
structure ProviderStatementV1.Wellformed (s : ProviderStatementV1) (roles : List AdapterRole) :
    Prop where
  profileId : isContentId s.profileId = true
  trustRootId : isContentId s.trustRootId = true
  providerPolicyId : isContentId s.providerPolicyId = true
  requestId : isContentId s.requestId = true
  serviceInstanceId : isAdapterIdentity s.serviceInstanceId = true
  environmentId : isAdapterIdentity s.environmentId = true
  sourceId : isAdapterIdentity s.sourceId = true
  evidenceRole : s.evidenceRole ∈ roles

/-- A statement of a time or revocation source is read back from its bytes. -/
theorem providerStatement_read {s : ProviderStatementV1} {wire : ByteArray}
    (hwire : canonicalDumps E.nfc s.toBody = .ok wire)
    (hclaim : normalForm (.obj s.claim) = .obj s.claim)
    (h : s.Wellformed integrityAdapterRolesV1) : providerStatementOf E wire = .ok s := by
  have hnormal : normalForm s.toBody = s.toBody := by
    simpa [ProviderStatementV1.toBody, normalForm, normalFormMembers, setItem, sortMembers]
      using hclaim
  have hrecord : canonicalRecordBody E adapterRecordError wire statementFields
      "provider_statement" = .ok [("claim", .obj s.claim), ("contract_version", .int 1),
        ("environment_id", .str s.environmentId), ("evidence_role", .str s.evidenceRole.text),
        ("profile_id", .str s.profileId), ("provider_policy_id", .str s.providerPolicyId),
        ("request_id", .str s.requestId), ("service_instance_id", .str s.serviceInstanceId),
        ("source_id", .str s.sourceId), ("trust_root_id", .str s.trustRootId)] :=
    canonicalRecordBody_eq_ok hwire hnormal rfl
  rw [providerStatementOf, bind_of_ok hrecord]
  simp only [field, List.lookup, String.reduceBEq, orRefuse_some_bind, requireAdapterDigest,
    requireAdapterIdentity, members?_obj]
  rw [refuseIf_bind_of_not (by simp [int?]), requireText_bind h.profileId,
    requireText_bind h.trustRootId, requireText_bind h.providerPolicyId,
    requireText_bind h.requestId, requireText_bind h.serviceInstanceId,
    requireText_bind h.environmentId, requireText_bind h.sourceId,
    bind_of_ok (orRefuse_eq_ok.mpr (role?_text h.evidenceRole))]
  rfl

theorem isKeyId_text (k : KeyId) : isKeyId k.text = true := by
  have hstart : "ed25519:".toList.length = 8 := by rfl
  unfold isKeyId KeyId.text
  rw [String.toList_append, List.drop_left' hstart, String.ofList_toList, isContentId_contentIdText,
    Bool.and_true]
  exact List.isPrefixOf_iff_prefix.mpr (List.prefix_append _ _)

theorem length_keyIdText (k : KeyId) : k.text.length = 79 := by
  rw [KeyId.text, String.length_append, length_contentIdText]
  rfl

theorem isAscii_append {s t : String} : isAscii (s ++ t) = (isAscii s && isAscii t) := by
  rw [isAscii, isAscii, isAscii, String.toList_append, List.all_append]

theorem isAscii_keyIdText (k : KeyId) : isAscii k.text = true := by
  rw [KeyId.text, isAscii_append, isAscii_contentIdText, Bool.and_true]
  decide

theorem isAscii_base64Text (bytes : List UInt8) : isAscii (base64Text bytes) = true := by
  rw [isAscii, base64Text, String.toList_ofList, List.all_eq_true]
  exact fun c hc => decide_eq_true (Base64.encode_ascii bytes c hc)

theorem length_base64Text (bytes : List UInt8) :
    (base64Text bytes).length = (bytes.length + 2) / 3 * 4 := by
  rw [base64Text, String.length_ofList, Base64.length_encode]

/-- A package of a statement of a bounded size has canonical bytes that fit in an evidence blob. -/
theorem providerEvidence_writes (role : AdapterRole) (k : KeyId) {statementBytes : ByteArray}
    {signature : List UInt8} (hsignature : signature.length = 64)
    (hsize : statementBytes.size ≤ 100000) :
    ∃ wire, providerEvidenceBytes E ⟨role, k.text, statementBytes, signature⟩ = .ok wire ∧
      k.text.length < wire.size ∧ wire.size ≤ maxProviderEvidenceBlobBytesV1 := by
  have hstatement := length_base64Text statementBytes.data.toList
  have hsign := length_base64Text signature
  rw [Array.length_toList, ByteArray.size_data] at hstatement
  rw [hsignature] at hsign
  have hrole : role.text.length ≤ 20 ∧ isAscii role.text = true := by
    cases role <;> decide
  have hadmitted : Admitted E.nfc 0
      (SignedEvidenceV1.toBody ⟨role, k.text, statementBytes, signature⟩) := by
    refine admitted_record (by decide +kernel : PlainFields signedEvidenceFields) rfl (by decide) ?_
    simp only [List.forall_mem_cons, List.not_mem_nil, false_imp_iff, implies_true, and_true]
    refine ⟨.str (by decide) ?_, .str (by decide) ?_, .str (by decide) ?_, .str (by decide) ?_,
      .str (by decide) ?_⟩
    · exact validString_of_ascii (by decide +kernel) (by decide +kernel)
    · exact validString_of_ascii hrole.2 (hrole.1.trans (by decide))
    · exact validString_of_ascii (isAscii_keyIdText k) ((length_keyIdText k).le.trans (by decide))
    · exact validString_of_ascii (isAscii_base64Text _) (hsign.le.trans (by decide))
    · refine validString_of_ascii (isAscii_base64Text _) (hstatement.le.trans ?_)
      unfold maxStringCodepoints
      omega
  have hnormal := normalized_of_admitted hadmitted (by
    simp only [SignedEvidenceV1.toBody, nodes, nodesMembers]
    decide)
  have hweight : weight (SignedEvidenceV1.toBody ⟨role, k.text, statementBytes, signature⟩) ≤
      maxProviderEvidenceBlobBytesV1 := by
    have hkeys : "algorithm".length + "ed25519".length + "evidence_role".length +
        "key_id".length + "signature_b64".length + "statement_b64".length = 61 := by rfl
    simp only [SignedEvidenceV1.toBody, weight, weightMembers, hstatement, hsign,
      length_keyIdText, maxProviderEvidenceBlobBytesV1]
    omega
  obtain ⟨hdumps, hbytes⟩ := canonicalDumps_weight hnormal (hweight.trans (by decide))
  refine ⟨_, ?_, ?_, hbytes.trans hweight⟩
  · rw [providerEvidenceBytes, canonicalRecordBytes, mapError_eq_ok]
    exact hdumps
  · rw [size_encoded]
    exact length_lt_dumps_obj (by simp : ("key_id", Json.str k.text) ∈ _)

theorem isAdapterIdentity_ascii {text : String} (h : isAdapterIdentity text = true) :
    isAscii text = true ∧ text.length ≤ 128 := by
  unfold isAdapterIdentity at h
  split at h
  · exact absurd h (by simp)
  · next c rest htext =>
    simp only [Bool.and_eq_true, decide_eq_true_eq] at h
    obtain ⟨⟨⟨hc, -⟩, hlength⟩, hrest⟩ := h
    have hle : ∀ {d e : Char}, d ≤ e → e.toNat < 128 → d.toNat < 128 := fun h he =>
      (Nat.lt_of_le_of_lt h he)
    have hclass : ∀ d ∈ c :: rest, d.toNat < 128 := by
      refine List.forall_mem_cons.mpr ⟨?_, fun d hd => ?_⟩
      · simp only [Bool.or_eq_true, decide_eq_true_eq] at hc
        rcases hc with ⟨-, hc⟩ | ⟨-, hc⟩ <;> exact hle hc (by decide)
      · have hd := List.all_eq_true.mp hrest d hd
        simp only [Bool.or_eq_true, decide_eq_true_eq, List.mem_cons, List.not_mem_nil,
          or_false] at hd
        rcases hd with ((⟨-, hd⟩ | ⟨-, hd⟩) | ⟨-, hd⟩) | rfl | rfl | rfl | rfl
        · exact hle hd (by decide)
        · exact hle hd (by decide)
        · exact hle hd (by decide)
        iterate 4 decide
    refine ⟨?_, ?_⟩
    · rw [isAscii, htext, List.all_eq_true]
      exact fun d hd => decide_eq_true (hclass d hd)
    · rw [← String.length_toList, htext, List.length_cons]
      omega

theorem admitted_contentIdText {nfc : String → Bool} {depth : ℕ}
    (hdepth : depth ≤ maxNestingDepth) (d : Digest) :
    Admitted nfc depth (.str (contentIdText d)) :=
  .str hdepth (validString_of_ascii (isAscii_contentIdText d)
    ((length_contentIdText d).le.trans (by decide)))

theorem admitted_identity {nfc : String → Bool} {depth : ℕ} (hdepth : depth ≤ maxNestingDepth)
    {text : String} (h : isAdapterIdentity text = true) : Admitted nfc depth (.str text) :=
  .str hdepth (validString_of_ascii (isAdapterIdentity_ascii h).1
    ((isAdapterIdentity_ascii h).2.trans (by decide)))

theorem admitted_epoch {nfc : String → Bool} {depth n : ℕ} (hdepth : depth ≤ maxNestingDepth)
    (hn : n ≤ maxAdapterEpoch) : Admitted nfc depth (.int n) := by
  refine .int hdepth ?_ ?_
  · exact (by decide : minInteger ≤ 0).trans (Int.natCast_nonneg n)
  · exact Int.ofNat_le.mpr hn

theorem weight_epoch {n : ℕ} (hn : n ≤ maxAdapterEpoch) : weight (.int n) ≤ 19 := by
  have hlt : n < 10 ^ 19 := Nat.lt_of_le_of_lt hn (by decide)
  rw [weight, show dumpsInt (n : ℤ) = Nat.toDigits 10 n from rfl,
    textSize_digits (isDigit_toDigits n)]
  exact length_toDigits hlt

theorem requireAdapterEpoch_bind {n : ℕ} (hn : n ≤ maxAdapterEpoch) (name : String) {β : Type}
    (f : ℕ → Except AdapterError β) : (requireAdapterEpoch (.int n) name >>= f) = f n := by
  have h : requireAdapterEpoch (.int n) name = .ok n := by
    rw [requireAdapterEpoch, requireNat, int?, bind_of_ok (orRefuse_eq_ok.mpr rfl),
      refuseIf_bind_of_not (not_not.mpr ⟨Int.natCast_nonneg n, Int.ofNat_le.mpr hn⟩)]
    rfl
  exact bind_of_ok h

theorem requireAdapterPositive_bind {n : ℕ} (hpos : 0 < n) (hn : n ≤ maxAdapterEpoch)
    (name : String) {β : Type} (f : ℕ → Except AdapterError β) :
    (requireAdapterPositive (.int n) name >>= f) = f n := by
  have h : requireAdapterPositive (.int n) name = .ok n := by
    rw [requireAdapterPositive, requireAdapterEpoch_bind hn, refuseIf_bind_of_not hpos.ne']
    rfl
  exact bind_of_ok h

theorem requireExactDict_bind {body : List (String × Json)} {fields : List String}
    {label : String} (h : body.map Prod.fst = fields) {β : Type}
    (f : List (String × Json) → Except AdapterError β) :
    (requireExactDict (.obj body) fields label >>= f) = f body := by
  have hexact : requireExactDict (.obj body) fields label = .ok body := by
    subst h
    rw [requireExactDict, members?_obj, bind_of_ok (orRefuse_eq_ok.mpr rfl),
      refuseIf_bind_of_not (not_not.mpr ⟨fun _ h => h, fun _ h => h⟩)]
    rfl
  exact bind_of_ok hexact

end Packages

end Etzio
