import Etzio.WireRecords

/-!
# Authority records

The grants, the signed grants, the trust snapshots and the admissions that an event retains, as
they are decoded from their envelopes. What a decoder returns carries the identity of the envelope
it read.
-/

open CheckedRun JsonText

namespace Etzio.Wire

variable (E : WireEnv)

/-! ## Constants -/

def authorityObjectKind : String := "authority_grant"

def operatorRole : String := "operator"

def permittedActions : List String := ["static_analysis", "modeled_fixture_verification"]

def maxBytesHardCeiling : ℕ := 2 ^ 30

def maxCandidatesHardCeiling : ℕ := 100000

def maxWallclockSecondsHardCeiling : ℕ := 86400

def maxAuthorityEnvelopeBytes : ℕ := 2 ^ 20

def maxTrustedAuthorityKeys : ℕ := 64

def maxAuthorityRevocations : ℕ := 10000

/-- `_SIGNATURE_DOMAIN` of authority grants. -/
def grantSignatureDomain : List UInt8 := asciiBytes "etzio.authority-grant.signature.v1" ++ [0]

/-- `_GRANT_BODY_FIELDS`. -/
def grantBodyFields : List String :=
  ["assets", "evidence_digest", "expires_at", "issued_at", "issuer", "max_bytes", "max_candidates",
    "max_wallclock_seconds", "not_before", "permitted_actions", "subject", "target_snapshot_id"]

/-- `_ATTESTATION_FIELDS`. -/
def attestationFields : List String := ["algorithm", "key_id", "signature_b64"]

/-- `_ADMISSION_BODY_FIELDS`. -/
def admissionBodyFields : List String :=
  ["authority_id", "decision_time", "grant_expires_at", "required_actions", "signed_grant",
    "signer_key_id", "target_snapshot_id", "trust_snapshot", "trust_snapshot_id"]

/-! ## Grants -/

/-- `AuthorityGrantV1`. -/
structure AuthorityGrantV1 where
  grantId : String
  issuer : String
  subject : String
  targetSnapshotId : String
  assets : List String
  permittedActions : List String
  evidenceDigest : String
  issuedAt : ℕ
  notBefore : ℕ
  expiresAt : ℕ
  maxBytes : ℕ
  maxCandidates : ℕ
  maxWallclockSeconds : ℕ

/-- `_wire_body(self._body())`. -/
def AuthorityGrantV1.body (g : AuthorityGrantV1) : Json :=
  .obj [("assets", .arr (g.assets.map .str)), ("evidence_digest", .str g.evidenceDigest),
    ("expires_at", .int g.expiresAt), ("issued_at", .int g.issuedAt), ("issuer", .str g.issuer),
    ("max_bytes", .int g.maxBytes), ("max_candidates", .int g.maxCandidates),
    ("max_wallclock_seconds", .int g.maxWallclockSeconds), ("not_before", .int g.notBefore),
    ("permitted_actions", .arr (g.permittedActions.map .str)), ("subject", .str g.subject),
    ("target_snapshot_id", .str g.targetSnapshotId)]

/-- The text of an issuer or a subject. -/
def nonblankField (values : Members) (field : String) : Except WireError String := do
  let value ← values.item field
  textOf value isNonblank (.authority ("blank_" ++ field)
    (field ++ " must be a non-blank canonical string"))

/-- A content identity of a grant. -/
def grantDigest (values : Members) (field : String) : Except WireError String := do
  let value ← values.item field
  let text ← textOf value (· ≠ "") (.authority ("blank_" ++ field) (field ++ " must be non-blank"))
  refuseIf (isContentId text = false)
    (.authority ("invalid_" ++ field) (field ++ " must be a full sha256 content ID"))
  return text

/-- The names of a scope of a grant : nonblank, distinct and in their order. -/
def grantScope (values : List Json) (empty blank duplicate order : WireError) :
    Except WireError (List String) := do
  refuseIf (values.isEmpty = true) empty
  let names ← textsOf values isNonblank blank
  refuseIf (¬names.Nodup) duplicate
  refuseIf (names ≠ sortedTexts names) order
  return names

/-- A time of a grant. -/
def grantTime (values : Members) (field : String) : Except WireError ℕ := do
  let value ← values.item field
  natOf value none
    (.authority "invalid_time" (field ++ " must be a nonnegative integer epoch second"))

/-- A budget of a grant. -/
def grantBudget (values : Members) (field : String) (ceiling : ℕ) : Except WireError ℕ := do
  let value ← values.item field
  let n ← natOf value none
    (.authority "invalid_budget" (field ++ " must be a nonnegative integer"))
  refuseIf (n > ceiling) (.authority "budget_exceeds_hard_ceiling"
    (field ++ " exceeds the foundation hard ceiling"))
  return n

/-- `_validate_semantics`, and the grant that has the values. -/
def validateSemantics (grantId : String) (values : Members) (assets actions : List Json) :
    Except WireError AuthorityGrantV1 := do
  refuseIf (¬HasKeys values grantBodyFields)
    (.authority "malformed_grant" "authority grant has missing or unknown fields")
  let issuer ← nonblankField values "issuer"
  let subject ← nonblankField values "subject"
  let targetSnapshotId ← grantDigest values "target_snapshot_id"
  let evidenceDigest ← grantDigest values "evidence_digest"
  let assets ← grantScope assets
    (.authority "invalid_assets" "assets must be a non-empty tuple")
    (.authority "blank_asset" "assets must contain non-blank canonical strings")
    (.authority "duplicate_asset" "assets must not contain duplicates")
    (.authority "noncanonical_assets" "assets must use canonical lexical order")
  let actions ← grantScope actions
    (.authority "invalid_actions" "permitted_actions must be a non-empty tuple")
    (.authority "blank_action" "permitted_actions must contain canonical strings")
    (.authority "duplicate_action" "permitted_actions must not contain duplicates")
    (.authority "noncanonical_actions" "permitted_actions must use canonical lexical order")
  refuseIf (¬∀ action ∈ actions, action ∈ permittedActions)
    (.authority "unknown_action" "permitted_actions contains an unsupported action")
  let issuedAt ← grantTime values "issued_at"
  let notBefore ← grantTime values "not_before"
  let expiresAt ← grantTime values "expires_at"
  refuseIf (issuedAt > notBefore ∨ notBefore ≥ expiresAt) (.authority "invalid_time_window"
    "time ordering must be issued_at <= not_before < expires_at")
  let maxBytes ← grantBudget values "max_bytes" maxBytesHardCeiling
  let maxCandidates ← grantBudget values "max_candidates" maxCandidatesHardCeiling
  let maxWallclockSeconds ←
    grantBudget values "max_wallclock_seconds" maxWallclockSecondsHardCeiling
  return { grantId, issuer, subject, targetSnapshotId, assets, permittedActions := actions,
           evidenceDigest, issuedAt, notBefore, expiresAt, maxBytes, maxCandidates,
           maxWallclockSeconds }

/-- `AuthorityGrantV1.__post_init__`, whose semantics were validated. -/
def AuthorityGrantV1.postInit (g : AuthorityGrantV1) : Except WireError Unit := do
  refuseIf (isContentId g.grantId = false)
    (.authority "invalid_grant_id" "grant_id must be a full sha256 content ID")
  let envelope ← refused (.authority "invalid_grant"
    "grant cannot be represented by protocol v1") (E.create authorityObjectKind g.body)
  refuseIf (g.grantId ≠ envelope.objectId)
    (.authority "object_id_mismatch" "grant_id does not match canonical grant semantics")

/-- `AuthorityGrantV1.from_envelope`. -/
def AuthorityGrantV1.fromEnvelope (envelope : EnvelopeV1) : Except WireError AuthorityGrantV1 := do
  refuseIf (envelope.objectKind ≠ authorityObjectKind)
    (.authority "wrong_object_kind" "envelope is not an authority grant")
  refuseIf (envelope.attestations ≠ [])
    (.authority "unexpected_attestations" "authority grant envelope attestations must be empty")
  let rawBody ← E.thawBody envelope
  let rawBody ← recordOf rawBody grantBodyFields
    (.authority "malformed_grant" "authority grant body has missing or unknown fields")
  let scopes : WireError :=
    .authority "malformed_grant" "authority grant scopes must be JSON arrays"
  let assets ← rawBody.item "assets"
  let assets ← arrayOf assets scopes
  let actions ← rawBody.item "permitted_actions"
  let actions ← arrayOf actions scopes
  let grant ← validateSemantics envelope.objectId rawBody assets actions
  grant.postInit E
  return grant

/-! ## Signed grants -/

/-- `SignedAuthorityGrantV1`. -/
structure SignedAuthorityGrantV1 where
  envelopeBytes : ByteArray
  keyId : String
  signatureB64 : String

/-- `SignedAuthorityGrantV1.__post_init__`. -/
def SignedAuthorityGrantV1.new (envelopeBytes : ByteArray) (keyId signatureB64 : Json) :
    Except WireError SignedAuthorityGrantV1 := do
  refuseIf (envelopeBytes.size = 0)
    (.authority "malformed_signed_object" "envelope_bytes must be non-empty bytes")
  refuseIf (envelopeBytes.size > maxAuthorityEnvelopeBytes) (.authority
    "authority_envelope_too_large" "authority envelope exceeds the fixed byte ceiling")
  let keyId ← textOf keyId isKeyId (.authority "malformed_key_id"
    "key_id must be content-derived from an Ed25519 public key")
  let signatureB64 ← signatureOf signatureB64 (.authority "malformed_signature"
    "signature_b64 must be one canonical Ed25519 signature")
  return ⟨envelopeBytes, keyId, signatureB64⟩

/-- The attestation of a signature. -/
def attestationOf (keyId signatureB64 : String) : Json :=
  .obj [("algorithm", .str "ed25519"), ("key_id", .str keyId), ("signature_b64", .str signatureB64)]

/-- `SignedAuthorityGrantV1.to_envelope`. -/
def SignedAuthorityGrantV1.toEnvelope (signed : SignedAuthorityGrantV1) :
    Except WireError EnvelopeV1 := do
  let grantEnvelope ← refused (.authority "invalid_envelope" "signed grant envelope is invalid")
    (E.fromBytes signed.envelopeBytes)
  refuseIf (grantEnvelope.objectKind ≠ authorityObjectKind ∨ grantEnvelope.attestations ≠ [])
    (.authority "invalid_envelope"
      "signed authority input must contain one unattested grant envelope")
  let _ ← AuthorityGrantV1.fromEnvelope E grantEnvelope
  protocol (EnvelopeV1.create E.nfc E.sha256 authorityObjectKind (.obj grantEnvelope.body)
    (.arr [attestationOf signed.keyId signed.signatureB64]))

/-- `SignedAuthorityGrantV1.to_bytes`. -/
def SignedAuthorityGrantV1.toBytes (signed : SignedAuthorityGrantV1) :
    Except WireError ByteArray := do
  let envelope ← signed.toEnvelope E
  E.toBytes envelope

/-- `SignedAuthorityGrantV1.from_bytes`. -/
def SignedAuthorityGrantV1.fromBytes (data : ByteArray) :
    Except WireError SignedAuthorityGrantV1 := do
  let envelope ← refused (.authority "invalid_envelope" "signed authority wire is invalid")
    (E.fromBytes data)
  refuseIf (envelope.objectKind ≠ authorityObjectKind) (.authority "malformed_signed_object"
    "signed authority wire requires exactly one grant attestation")
  let attestation ← orRefuse (singleton? envelope.attestations) (.authority
    "malformed_signed_object" "signed authority wire requires exactly one grant attestation")
  let attestation ← protocol (normalized E.nfc (.obj attestation))
  let attestation ← recordOf attestation attestationFields (.authority "malformed_signed_object"
    "authority signature attestation has missing or unknown fields")
  let algorithm ← attestation.item "algorithm"
  refuseIf (algorithm ≠ .str "ed25519")
    (.authority "malformed_signed_object" "unsupported signature algorithm")
  let unattested ← E.create authorityObjectKind (.obj envelope.body)
  refuseIf (unattested.objectId ≠ envelope.objectId)
    (.authority "object_id_mismatch" "attested grant identity changed")
  let _ ← AuthorityGrantV1.fromEnvelope E unattested
  let envelopeBytes ← E.toBytes unattested
  let keyId ← attestation.item "key_id"
  let signatureB64 ← attestation.item "signature_b64"
  SignedAuthorityGrantV1.new envelopeBytes keyId signatureB64

/-! ## Trust snapshots -/

/-- An error of an admission. -/
def invalidAdmission (message : String) : WireError := .authority "invalid_admission" message

/-- A key of a trust snapshot. -/
structure AuthorityKeyEntry where
  issuers : List String
  keyId : String
  publicKey : List UInt8
  roles : List String

/-- The body of a trust snapshot. -/
structure AuthorityTrustBody where
  keys : List AuthorityKeyEntry
  revokedGrantIds : List String
  revokedKeyIds : List String

/-- The roles or the issuers of a key : nonblank, distinct and in their order. -/
def trustLabels (values : List Json) : Except WireError (List String) := do
  let noncanonical := invalidAdmission "trust snapshot labels are noncanonical"
  refuseIf (values.isEmpty = true) noncanonical
  let labels ← textsOf values isNonblank noncanonical
  refuseIf (labels ≠ sortedSet labels) noncanonical
  return labels

/-- A key entry of `_validate_trust_snapshot_body`. -/
def authorityKeyEntry (entry : Json) : Except WireError AuthorityKeyEntry := do
  let entry ← recordOf entry ["issuers", "key_id", "public_key_b64", "roles"]
    (invalidAdmission "trust snapshot key entry is malformed")
  let arrays := invalidAdmission "trust snapshot roles and issuers must be arrays"
  let roles ← entry.item "roles"
  let roles ← arrayOf roles arrays
  let issuers ← entry.item "issuers"
  let issuers ← arrayOf issuers arrays
  let publicKeyB64 ← entry.item "public_key_b64"
  let malformed := invalidAdmission "trust snapshot public key is malformed"
  let publicKeyB64 ← orRefuse (str? publicKeyB64) malformed
  let publicBytes ← orRefuse (Base64.decode publicKeyB64.toList) malformed
  let keyId ← entry.item "key_id"
  refuseIf (publicBytes.length ≠ 32 ∨ E.validKey publicBytes = false ∨
      base64Text publicBytes ≠ publicKeyB64 ∨ .str (E.keyId publicBytes) ≠ keyId)
    (invalidAdmission "trust snapshot key identity is malformed")
  let roles ← trustLabels roles
  let issuers ← trustLabels issuers
  return ⟨issuers, E.keyId publicBytes, publicBytes, roles⟩

/-- The revoked identities of a snapshot : of a pattern, distinct and in their order. -/
def revokedIds (values : List Json) (pattern : String → Bool) (error : WireError) :
    Except WireError (List String) := do
  let ids ← textsOf values pattern error
  refuseIf (ids ≠ sortedSet ids) error
  return ids

/-- `_validate_trust_snapshot_body`. -/
def validateTrustSnapshotBody (body : Members) : Except WireError AuthorityTrustBody := do
  refuseIf (¬HasKeys body ["keys", "revoked_grant_ids", "revoked_key_ids"])
    (invalidAdmission "trust snapshot has missing or unknown fields")
  let arrays := invalidAdmission "trust snapshot collections must be arrays"
  let keys ← body.item "keys"
  let keys ← arrayOf keys arrays
  let revokedGrants ← body.item "revoked_grant_ids"
  let revokedGrants ← arrayOf revokedGrants arrays
  let revokedKeys ← body.item "revoked_key_ids"
  let revokedKeys ← arrayOf revokedKeys arrays
  refuseIf (keys.length > maxTrustedAuthorityKeys)
    (invalidAdmission "trust snapshot exceeds the key-count ceiling")
  refuseIf (revokedGrants.length + revokedKeys.length > maxAuthorityRevocations)
    (invalidAdmission "trust snapshot exceeds the revocation ceiling")
  let entries ← keys.mapM (authorityKeyEntry E)
  let observedKeyIds := entries.map AuthorityKeyEntry.keyId
  refuseIf (observedKeyIds ≠ sortedSet observedKeyIds)
    (invalidAdmission "trust snapshot keys are noncanonical")
  let revocations := invalidAdmission "trust snapshot revocations are noncanonical"
  let revokedGrantIds ← revokedIds revokedGrants isContentId revocations
  let revokedKeyIds ← revokedIds revokedKeys isKeyId revocations
  return ⟨entries, revokedGrantIds, revokedKeyIds⟩

/-! ## Admissions -/

/-- `AuthorityAdmissionV1`. -/
structure AuthorityAdmissionV1 where
  admissionId : String
  authorityId : String
  signerKeyId : String
  targetSnapshotId : String
  decisionTime : ℕ
  requiredActions : List String
  grantExpiresAt : ℕ
  trustSnapshotId : String
  trustSnapshotBytes : ByteArray
  signedGrantBytes : ByteArray

/-- `_required_action_tuple`. -/
def requiredActionTuple (actions : List Json) : Except WireError (List String) := do
  let result ← textsOf actions (· ∈ permittedActions) (.authority "invalid_required_actions"
    "required_actions contains an unsupported action")
  refuseIf (¬result.Nodup) (.authority "invalid_required_actions"
    "required_actions must not contain duplicates")
  return sortedTexts result

/-- `_validate_historical_admission`. -/
def validateHistoricalAdmission (a : AuthorityAdmissionV1) (trustSnapshot : AuthorityTrustBody) :
    Except WireError Unit := do
  let (signed, grant) ← catching (fun e => e.isAuthority || e.isProtocol)
    (fun _ => invalidAdmission "embedded signed grant is invalid") (do
      let signed ← SignedAuthorityGrantV1.fromBytes E a.signedGrantBytes
      let envelope ← E.fromBytes signed.envelopeBytes
      let grant ← AuthorityGrantV1.fromEnvelope E envelope
      return (signed, grant))
  let bytes ← signed.toBytes E
  refuseIf (bytes ≠ a.signedGrantBytes)
    (invalidAdmission "embedded signed grant is noncanonical")
  refuseIf (signed.keyId ≠ a.signerKeyId ∨ grant.grantId ≠ a.authorityId ∨
      grant.targetSnapshotId ≠ a.targetSnapshotId ∨ grant.expiresAt ≠ a.grantExpiresAt ∨
      a.decisionTime < grant.notBefore ∨ a.decisionTime ≥ grant.expiresAt ∨
      ¬∀ action ∈ a.requiredActions, action ∈ grant.permittedActions)
    (invalidAdmission "embedded grant does not satisfy the admission")
  refuseIf (signed.keyId ∈ trustSnapshot.revokedKeyIds ∨
      grant.grantId ∈ trustSnapshot.revokedGrantIds)
    (invalidAdmission "embedded trust snapshot revokes the admission")
  let untrusted := invalidAdmission "embedded signer is not trusted for this issuer"
  let entry ← orRefuse (trustSnapshot.keys.find? fun entry => entry.keyId = signed.keyId) untrusted
  refuseIf (operatorRole ∉ entry.roles ∨ grant.issuer ∉ entry.issuers) untrusted
  let invalid := invalidAdmission "embedded grant signature is invalid"
  let signature ← orRefuse (Base64.decode signed.signatureB64.toList) invalid
  refuseIf (E.verifies entry.publicKey signature
      (grantSignatureDomain ++ signed.envelopeBytes.data.toList) = false) invalid

/-- An identity of an admission. -/
def admissionDigest (value : Json) (field : String) : Except WireError String :=
  textOf value isContentId (invalidAdmission (field ++ " must be a full sha256 ID"))

/-- `AuthorityAdmissionV1.__post_init__`, with the body that `_body` builds. -/
def AuthorityAdmissionV1.new (admissionId : String)
    (authorityId signerKeyId targetSnapshotId decisionTime : Json) (requiredActions : List Json)
    (grantExpiresAt trustSnapshotId : Json) (trustSnapshotBytes signedGrantBytes : ByteArray) :
    Except WireError AuthorityAdmissionV1 := do
  let admissionId ← admissionDigest (.str admissionId) "admission_id"
  let authorityId ← admissionDigest authorityId "authority_id"
  let targetSnapshotId ← admissionDigest targetSnapshotId "target_snapshot_id"
  let trustSnapshotId ← admissionDigest trustSnapshotId "trust_snapshot_id"
  let signerKeyId ← textOf signerKeyId isKeyId (invalidAdmission "signer_key_id is malformed")
  let decisionTime ← natOf decisionTime none (invalidAdmission "decision_time must be nonnegative")
  let expiry := invalidAdmission "admission must precede grant expiry"
  let grantExpiresAt ← natOf grantExpiresAt none expiry
  refuseIf (decisionTime ≥ grantExpiresAt) expiry
  let required ← requiredActionTuple requiredActions
  refuseIf (required.map .str ≠ requiredActions)
    (invalidAdmission "required actions must use canonical order")
  let loaded ← catching WireError.isProtocol
    (fun _ => invalidAdmission "trust snapshot bytes are invalid") (E.loads trustSnapshotBytes)
  let noObject := invalidAdmission "trust snapshot must be a JSON object"
  let loaded ← orRefuse (members? loaded) noObject
  let canonical ← E.dumps (.obj loaded)
  refuseIf (canonical ≠ trustSnapshotBytes) noObject
  let trustSnapshot ← validateTrustSnapshotBody E loaded
  let snapshotId ← E.contentId "authority_trust_snapshot" (.obj loaded)
  refuseIf (snapshotId ≠ trustSnapshotId)
    (invalidAdmission "trust snapshot ID does not match its bytes")
  let admission : AuthorityAdmissionV1 :=
    { admissionId, authorityId, signerKeyId, targetSnapshotId, decisionTime,
      requiredActions := required, grantExpiresAt, trustSnapshotId, trustSnapshotBytes,
      signedGrantBytes }
  validateHistoricalAdmission E admission trustSnapshot
  let signedGrant ← E.loads signedGrantBytes
  let envelope ← E.create "authority_admission" (.obj
    [("authority_id", .str authorityId), ("decision_time", .int decisionTime),
      ("grant_expires_at", .int grantExpiresAt),
      ("required_actions", .arr (required.map .str)), ("signed_grant", signedGrant),
      ("signer_key_id", .str signerKeyId), ("target_snapshot_id", .str targetSnapshotId),
      ("trust_snapshot", .obj loaded), ("trust_snapshot_id", .str trustSnapshotId)])
  refuseIf (envelope.objectId ≠ admissionId)
    (invalidAdmission "admission ID does not match its content")
  return admission

/-- `AuthorityAdmissionV1.from_envelope`. -/
def AuthorityAdmissionV1.fromEnvelope (envelope : EnvelopeV1) :
    Except WireError AuthorityAdmissionV1 := do
  refuseIf (envelope.objectKind ≠ "authority_admission" ∨ envelope.attestations ≠ [])
    (invalidAdmission "expected an unattested authority_admission envelope")
  let body ← E.thawBody envelope
  let body ← recordOf body admissionBodyFields
    (invalidAdmission "admission has missing or unknown fields")
  let malformed := invalidAdmission "admission arrays or objects are malformed"
  let requiredActions ← body.item "required_actions"
  let requiredActions ← arrayOf requiredActions malformed
  let trustSnapshot ← body.item "trust_snapshot"
  let trustSnapshot ← orRefuse (members? trustSnapshot) malformed
  let signedGrant ← body.item "signed_grant"
  let signedGrant ← orRefuse (members? signedGrant) malformed
  let authorityId ← body.item "authority_id"
  let signerKeyId ← body.item "signer_key_id"
  let targetSnapshotId ← body.item "target_snapshot_id"
  let decisionTime ← body.item "decision_time"
  let grantExpiresAt ← body.item "grant_expires_at"
  let trustSnapshotId ← body.item "trust_snapshot_id"
  let trustSnapshotBytes ← E.dumps (.obj trustSnapshot)
  let signedGrantBytes ← E.dumps (.obj signedGrant)
  AuthorityAdmissionV1.new E envelope.objectId authorityId signerKeyId targetSnapshotId decisionTime
    requiredActions grantExpiresAt trustSnapshotId trustSnapshotBytes signedGrantBytes

end Etzio.Wire
