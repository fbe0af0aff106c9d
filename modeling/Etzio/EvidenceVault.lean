import Etzio.StoreWrites

/-!
# The evidence vault

`evidence_artifacts` and `event_artifact_roles`, the tables a protected append retains
its artifacts in. The manifest of an event is derived from the event alone
(`deriveEventArtifactManifestV1`), each artifact is read from the staging store unless
its identity is retained already, and the retained manifest is compared with the derived
one whenever the event is replayed.

`VaultEnv` is an environment of the store with this vault in it (`VaultEnv.env`). What a
staging store answers is arbitrary : it is a directory anyone may write to. The set of
identities a replay has already rehashed only saves time, and is left out.

The main result here is `retainEventArtifacts_used_le` : retention never takes the vault
over its byte ceiling.
-/

open CheckedRun Rows

namespace Etzio

/-! ## Roles and identities -/

/-- `VAULT_ROLES_V1`. -/
inductive VaultRole
  | authorityEvidence
  | targetSource
  | verificationPocInput
  | verificationSupportingEvidenceInput
  | verificationEnvironmentSpec
  | verificationEffectOracleSpec
  | verificationExecutionOutput
  | verificationEffectOutput
  | verificationMeasuredEnvironmentOutput
  | verificationTerminationOutput
  deriving DecidableEq, Repr

/-- An identity scheme with its type tag, which a generic identity does not have. -/
inductive VaultScheme
  | generic
  | typed (tag : ArtifactType)
  deriving DecidableEq, Repr

/-- `identity_key`. -/
structure VaultIdentity where
  scheme : VaultScheme
  digest : Digest
  deriving DecidableEq, Repr

/-- `VAULT_IDENTITY_BY_ROLE_V1`. -/
def VaultRole.scheme : VaultRole → VaultScheme
  | .authorityEvidence => .generic
  | .targetSource => .generic
  | .verificationPocInput => .typed .modeledPocInput
  | .verificationSupportingEvidenceInput => .typed .modeledSupportingEvidenceInput
  | .verificationEnvironmentSpec => .typed .modeledEnvironmentSpec
  | .verificationEffectOracleSpec => .typed .modeledEffectOracleSpec
  | .verificationExecutionOutput => .typed .modeledExecutionOutput
  | .verificationEffectOutput => .typed .modeledEffectOutput
  | .verificationMeasuredEnvironmentOutput => .typed .modeledMeasuredEnvironmentOutput
  | .verificationTerminationOutput => .typed .modeledTerminationOutput

/-- `SINGLETON_VAULT_ROLES_V1`. -/
def VaultRole.singleton (r : VaultRole) : Bool :=
  r ≠ .targetSource ∧ r ≠ .verificationSupportingEvidenceInput

/-- The roles an event of a kind may claim. -/
def EventKind.vaultRoles : EventKind → List VaultRole
  | .authorityAdmitted => [.authorityEvidence]
  | .missionOpened => [.targetSource]
  | .verificationArtifactsResolved =>
    [.targetSource, .verificationPocInput, .verificationSupportingEvidenceInput,
      .verificationEnvironmentSpec, .verificationEffectOracleSpec]
  | .verifierReceiptAdmitted =>
    [.verificationExecutionOutput, .verificationEffectOutput,
      .verificationMeasuredEnvironmentOutput, .verificationTerminationOutput]
  | _ => []

/-! ## Bounds -/

/-- `MAX_RESOLUTION_ARTIFACTS_PER_ROLE_V1`. -/
def maxResolutionArtifactsPerRoleV1 : ℕ := 256

/-- `MAX_VAULT_ARTIFACT_BYTES_V1`. -/
def maxVaultArtifactBytesV1 : ℕ := 64 * 1024 * 1024

/-- `MAX_AUTHORITY_EVIDENCE_BYTES_V1`. -/
def maxAuthorityEvidenceBytesV1 : ℕ := 16 * 1024 * 1024

/-- `MAX_EVENT_ARTIFACT_ROLES_V1`. -/
def maxEventArtifactRolesV1 : ℕ := 2 * maxResolutionArtifactsPerRoleV1 + 3

/-! ## Manifests -/

/-- `VaultArtifactRefV1`. -/
structure VaultArtifactRefV1 where
  slot : ℕ
  role : VaultRole
  ordinal : ℕ
  locator : String
  identity : VaultIdentity
  byteSize : Option ℕ
  deriving DecidableEq, Repr

/-- The checks of its constructor, which returns it. -/
def VaultArtifactRefV1.construct (a : VaultArtifactRefV1) : Except String VaultArtifactRefV1 := do
  refuseIf (maxEventArtifactRolesV1 ≤ a.slot) "vault slot is outside the fixed event bound"
  refuseIf (maxResolutionArtifactsPerRoleV1 ≤ a.ordinal)
    "vault role ordinal is outside the fixed bound"
  refuseIf (a.role.singleton = true ∧ a.ordinal ≠ 0) "singleton vault roles require ordinal zero"
  refuseIf (a.role = .targetSource ∧ a.locator = "") "target-source vault roles require a path"
  refuseIf (a.role ≠ .targetSource ∧ a.locator ≠ "") "non-target vault roles forbid a locator"
  refuseIf (∃ n ∈ a.byteSize, maxVaultArtifactBytesV1 < n)
    "vault byte size is outside the fixed bound"
  refuseIf (a.identity.scheme ≠ .generic ∧ a.byteSize = some 0)
    "typed vault artifacts must be nonempty"
  refuseIf (a.byteSize = none ∧ a.role ≠ .authorityEvidence)
    "only authority evidence may omit its event-declared size"
  return a

/-- `with_observed_size`. -/
def VaultArtifactRefV1.withObservedSize (a : VaultArtifactRefV1) (size : ℕ) :
    Except String VaultArtifactRefV1 := do
  refuseIf (∃ n ∈ a.byteSize, n ≠ size) "artifact bytes differ from the event-declared size"
  refuseIf ((if a.role = .authorityEvidence then maxAuthorityEvidenceBytesV1
      else maxVaultArtifactBytesV1) < size) "artifact exceeds its vault ingestion ceiling"
  VaultArtifactRefV1.construct { a with byteSize := some size }

/-- `_typed_ref`, before its constructor. -/
def typedRef (slot : ℕ) (role : VaultRole) (ordinal : ℕ) (b : VerificationArtifactBindingV1) :
    VaultArtifactRefV1 where
  slot := slot
  role := role
  ordinal := ordinal
  locator := ""
  identity := ⟨.typed b.artifactType, b.artifactDigest⟩
  byteSize := some b.size

/-- `_generic_ref` of a target file, before its constructor. -/
def targetRef (slot : ℕ) (digest : Digest) (size : ℕ) (path : String) : VaultArtifactRefV1 where
  slot := slot
  role := .targetSource
  ordinal := slot
  locator := path
  identity := ⟨.generic, digest⟩
  byteSize := some size

/-- The artifacts of a resolution. The target artifacts come first, so that their slots
are their ordinals. -/
def resolutionRefs (r : VerificationArtifactResolutionV1) : List VaultArtifactRefV1 :=
  let targets := r.targetArtifacts.length
  let evidence := r.evidenceArtifacts.length
  (r.targetArtifacts.zipIdx.map fun x =>
      targetRef x.2 x.1.artifactDigest x.1.size x.1.relativePath) ++
    [typedRef targets .verificationPocInput 0 r.pocArtifact] ++
    (r.evidenceArtifacts.zipIdx.map fun x =>
      typedRef (targets + 1 + x.2) .verificationSupportingEvidenceInput x.2 x.1) ++
    [typedRef (targets + 1 + evidence) .verificationEnvironmentSpec 0 r.environmentArtifact,
      typedRef (targets + 2 + evidence) .verificationEffectOracleSpec 0 r.effectOracleArtifact]

/-- The outputs of a receipt admission. -/
def outputRefs (o : VerificationOutputArtifactsV1) : List VaultArtifactRefV1 :=
  [typedRef 0 .verificationExecutionOutput 0 o.executionOutputArtifact,
    typedRef 1 .verificationEffectOutput 0 o.effectOutputArtifact,
    typedRef 2 .verificationMeasuredEnvironmentOutput 0 o.measuredEnvironmentOutputArtifact,
    typedRef 3 .verificationTerminationOutput 0 o.terminationOutputArtifact]

/-- `derive_event_artifact_manifest_v1`. The size of authority evidence is not in the
signed grant. -/
def deriveEventArtifactManifestV1 (e : EventV1) : Except String (List VaultArtifactRefV1) :=
  match e.payload with
  | .authorityAdmitted _ grant _ _ =>
    [VaultArtifactRefV1.mk 0 .authorityEvidence 0 "" ⟨.generic, grant.evidenceDigest⟩ none].mapM
      VaultArtifactRefV1.construct
  | .missionOpened snapshot =>
    (snapshot.files.zipIdx.map fun x =>
      targetRef x.2 x.1.artifactDigest x.1.size x.1.relativePath).mapM VaultArtifactRefV1.construct
  | .verificationArtifactsResolved resolution =>
    (resolutionRefs resolution).mapM VaultArtifactRefV1.construct
  | .verifierReceiptAdmitted _ _ _ _ outputs =>
    ((outputRefs outputs).mapM VaultArtifactRefV1.construct).mapError fun _ =>
      "receipt-admission event contains invalid output bindings"
  | _ => .ok []

/-! ## Tables -/

/-- `evidence_artifacts`. -/
structure VaultArtifactRow where
  identity : VaultIdentity
  byteSize : ℕ
  originEventDigest : Digest
  content : List UInt8
  deriving DecidableEq

/-- `event_artifact_roles`. -/
structure ArtifactRoleRow where
  eventDigest : Digest
  eventKind : EventKind
  slot : ℕ
  role : VaultRole
  ordinal : ℕ
  locator : String
  identity : VaultIdentity
  byteSize : ℕ
  deriving DecidableEq

/-- The two tables. -/
structure EvidenceVault where
  artifacts : List VaultArtifactRow
  roles : List ArtifactRoleRow
  deriving DecidableEq

namespace EvidenceVault

/-- `_vault_used_bytes_locked`. -/
def usedBytes (v : EvidenceVault) : ℕ := (v.artifacts.map VaultArtifactRow.byteSize).sum

/-- The roles of an event, in slot order. -/
def rolesOf (v : EvidenceVault) (d : Digest) : List ArtifactRoleRow :=
  orderBy ArtifactRoleRow.slot (v.roles.filter fun r => r.eventDigest = d)

/-- An artifact that its origin event does not claim. -/
def Orphaned (v : EvidenceVault) : Prop :=
  ∃ a ∈ v.artifacts, ¬∃ r ∈ v.roles, r.identity = a.identity ∧ r.byteSize = a.byteSize ∧
    r.eventDigest = a.originEventDigest

instance (v : EvidenceVault) : Decidable v.Orphaned :=
  inferInstanceAs (Decidable (∃ a ∈ v.artifacts, _))

/-- The foreign keys of both tables. -/
def foreignKeys (v : EvidenceVault) (events : List EventRow) : Bool :=
  (∀ a ∈ v.artifacts, ∃ e ∈ events, e.digest = a.originEventDigest) ∧
    (∀ r ∈ v.roles, ∃ e ∈ events, e.digest = r.eventDigest) ∧
    ∀ r ∈ v.roles, ∃ a ∈ v.artifacts, a.identity = r.identity ∧ a.byteSize = r.byteSize

/-- The number of an event's roles of one kind. -/
def countRole (v : EvidenceVault) (d : Digest) (role : VaultRole) : ℕ :=
  ((v.rolesOf d).filter fun r => r.role = role).length

/-- The insert triggers of `events` that read the roles. -/
def admitsEvent (v : EvidenceVault) (r : EventRow) : Except String Unit := do
  let rows := v.rolesOf r.digest
  let count := v.countRole r.digest
  refuseIf (∃ x ∈ rows, x.eventKind ≠ r.kind) "event artifact kind mismatch"
  match r.kind with
  | .authorityAdmitted =>
    refuseIf (rows.length ≠ 1 ∨ ¬∃ x ∈ rows, x.role = .authorityEvidence ∧ x.ordinal = 0)
      "authority evidence manifest is incomplete"
  | .missionOpened =>
    refuseIf (rows.length < 1 ∨ 256 < rows.length ∨ ∃ x ∈ rows, x.role ≠ .targetSource)
      "target evidence manifest is incomplete"
  | .verificationArtifactsResolved =>
    refuseIf (count .targetSource < 1 ∨ 256 < count .targetSource ∨
        count .verificationSupportingEvidenceInput < 1 ∨
        256 < count .verificationSupportingEvidenceInput ∨ count .verificationPocInput ≠ 1 ∨
        count .verificationEnvironmentSpec ≠ 1 ∨ count .verificationEffectOracleSpec ≠ 1)
      "resolution evidence manifest is incomplete"
  | .verifierReceiptAdmitted =>
    refuseIf (rows.length ≠ 4 ∨ count .verificationExecutionOutput ≠ 1 ∨
        count .verificationEffectOutput ≠ 1 ∨ count .verificationMeasuredEnvironmentOutput ≠ 1 ∨
        count .verificationTerminationOutput ≠ 1)
      "receipt evidence manifest is incomplete"
  | _ => refuseIf (rows ≠ []) "ordinary event has an evidence manifest"

/-- Insert into `evidence_artifacts`, doing nothing when the identity is taken. The second
component is whether a row was inserted. -/
def insertArtifact (v : EvidenceVault) (r : VaultArtifactRow) : EvidenceVault × Bool :=
  if ∃ a ∈ v.artifacts, a.identity = r.identity then (v, false)
  else ({ v with artifacts := v.artifacts ++ [r] }, true)

/-- The row of a resolved artifact's role, `none` when its size was not observed. -/
def roleRow (e : EventV1) (a : VaultArtifactRefV1) : Option ArtifactRoleRow :=
  a.byteSize.map fun size =>
    ⟨e.eventDigest, e.kind, a.slot, a.role, a.ordinal, a.locator, a.identity, size⟩

/-- Insert into `event_artifact_roles`, with its constraints. -/
def insertRole (v : EvidenceVault) (r : ArtifactRoleRow) : Except String EvidenceVault := do
  refuseIf (r.role ∉ r.eventKind.vaultRoles ∨ r.identity.scheme ≠ r.role.scheme ∨
      1000000 < r.locator.length) "CHECK constraint failed"
  refuseIf (∃ x ∈ v.roles, x.eventDigest = r.eventDigest ∧
      (x.slot = r.slot ∨ (x.role, x.ordinal) = (r.role, r.ordinal))) uniqueMessage
  refuseIf (¬∃ a ∈ v.artifacts, a.identity = r.identity ∧ a.byteSize = r.byteSize)
    "FOREIGN KEY constraint failed"
  return { v with roles := v.roles ++ [r] }

end EvidenceVault

/-! ## Retention -/

/-- A read of the staging `FileEvidenceStore`, by identity under a byte ceiling. -/
abbrev StagingStore : Type := VaultIdentity → ℕ → Except String (List UInt8)

/-- An `EvidenceVaultError` of a protected append. -/
def retentionFailed (message : String) : StoreError :=
  storeError ("protected evidence retention failed: " ++ message)

section Retention

variable (digestBytesV1 : VaultScheme → List UInt8 → Digest)

/-- `_artifact_row_locked`. -/
def artifactRow (v : EvidenceVault) (i : VaultIdentity) :
    Except StoreError (Option VaultArtifactRow) := do
  let row := findBy VaultArtifactRow.identity i v.artifacts
  refuseIf (∃ r ∈ row, maxVaultArtifactBytesV1 < r.byteSize)
    (corruption "vault artifact metadata is invalid")
  return row

/-- `_read_vault_identity_locked`. `missing` is what its caller makes of an absent
identity. -/
def readVaultIdentity (missing : StoreError) (v : EvidenceVault) (i : VaultIdentity)
    (expectedSize : Option ℕ) : Except StoreError (List UInt8) := do
  let r ← orRefuse (← artifactRow v i) missing
  refuseIf (∃ n ∈ expectedSize, r.byteSize ≠ n)
    (corruption "vault artifact size differs from its event manifest")
  refuseIf (r.content.length ≠ r.byteSize)
    (corruption "vault BLOB length differs from retained metadata")
  refuseIf (digestBytesV1 i.scheme r.content ≠ i.digest)
    (corruption "vault BLOB fails its retained content identity")
  return r.content

/-- `_read_staged_artifact`. -/
def readStagedArtifact (a : VaultArtifactRefV1) (staging : StagingStore) :
    Except StoreError (VaultArtifactRefV1 × List UInt8) := do
  let maximum ← orRefuse (if a.role = .authorityEvidence then some maxAuthorityEvidenceBytesV1
    else a.byteSize) (storeError "vault artifact omitted a bounded read ceiling")
  let data ← (staging a.identity maximum).mapError fun m =>
    storeError ("required staged evidence is unavailable: " ++ m)
  let resolved ← (a.withObservedSize data.length).mapError retentionFailed
  refuseIf (digestBytesV1 resolved.identity.scheme data ≠ resolved.identity.digest)
    (storeError "staged evidence fails its code-owned content identity")
  return (resolved, data)

/-- What the retention loop carries : the vault, the bytes it counts and the manifest with
observed sizes. -/
structure Retention where
  vault : EvidenceVault
  usedBytes : ℕ
  manifest : List VaultArtifactRefV1

/-- `_retain_artifact_locked` within its loop. -/
def retainVaultArtifact (cap : ℕ) (staging : StagingStore) (origin : Digest) (s : Retention)
    (a : VaultArtifactRefV1) : Except StoreError Retention := do
  let missing := retentionFailed "artifact identity is absent from the canonical vault"
  match ← artifactRow s.vault a.identity with
  | some _ => do
    let retained ← readVaultIdentity digestBytesV1 missing s.vault a.identity a.byteSize
    let resolved ← (a.withObservedSize retained.length).mapError retentionFailed
    return ⟨s.vault, s.usedBytes, s.manifest ++ [resolved]⟩
  | none => do
    let (resolved, staged) ← readStagedArtifact digestBytesV1 a staging
    let size ← orRefuse resolved.byteSize (storeError "resolved vault artifact omitted its size")
    refuseIf (cap < s.usedBytes + size)
      ⟨.vaultCapacity, "new unique evidence exceeds the database vault byte ceiling"⟩
    let x := s.vault.insertArtifact ⟨resolved.identity, size, origin, staged⟩
    let retained ← readVaultIdentity digestBytesV1 missing x.1 resolved.identity resolved.byteSize
    refuseIf (retained ≠ staged)
      (corruption "vault identity collision retained different exact bytes")
    return ⟨x.1, if x.2 then s.usedBytes + size else s.usedBytes, s.manifest ++ [resolved]⟩

/-- One insertion of `_insert_event_artifact_roles_locked`. -/
def insertEventArtifactRole (e : EventV1) (v : EvidenceVault) (a : VaultArtifactRefV1) :
    Except StoreError EvidenceVault := do
  let row ← orRefuse (EvidenceVault.roleRow e a)
    (storeError "vault mapping omitted its observed byte size")
  (v.insertRole row).mapError appendRejected

/-- The retention of an event's manifest in `_append_verified_event`. -/
def retainEventArtifacts (cap : ℕ) (v : EvidenceVault) (staging : StagingStore) (e : EventV1) :
    Except StoreError EvidenceVault := do
  let expected ← (deriveEventArtifactManifestV1 e).mapError retentionFailed
  let s ← expected.foldlM (retainVaultArtifact digestBytesV1 cap staging e.eventDigest)
    ⟨v, v.usedBytes, []⟩
  s.manifest.foldlM (insertEventArtifactRole e) s.vault

/-! ## Replay -/

/-- The error of a manifest that cannot be reconstructed. -/
def manifestInvalid : StoreError := corruption "retained event-artifact manifest is invalid"

/-- `_stored_event_manifest_locked`. -/
def storedEventManifest (v : EvidenceVault) (d : Digest) :
    Except StoreError (List (EventKind × VaultArtifactRefV1)) :=
  (v.rolesOf d).mapM fun r => do
    let a ← (VaultArtifactRefV1.construct
      ⟨r.slot, r.role, r.ordinal, r.locator, r.identity, some r.byteSize⟩).mapError
        fun _ => manifestInvalid
    return (r.eventKind, a)

/-- One expected artifact with the size of its stored one. -/
def resolveExpected (e : EventV1) (x : VaultArtifactRefV1 × EventKind × VaultArtifactRefV1) :
    Except StoreError VaultArtifactRefV1 := do
  refuseIf (x.2.1 ≠ e.kind) (corruption "event-artifact manifest kind differs from its event")
  let size ← orRefuse x.2.2.byteSize manifestInvalid
  (x.1.withObservedSize size).mapError fun _ => manifestInvalid

/-- One retained artifact is read back. -/
def rehashArtifact (v : EvidenceVault) (a : VaultArtifactRefV1) : Except StoreError Unit := do
  let size ← orRefuse a.byteSize (corruption "retained artifact manifest omitted its byte size")
  let _ ← readVaultIdentity digestBytesV1
    (corruption "retained event artifact is absent from the canonical vault") v a.identity
    (some size)

/-- `_verify_event_manifest_locked`. -/
def verifyEventManifest (v : EvidenceVault) (e : EventV1) : Except StoreError Unit := do
  let expected ← (deriveEventArtifactManifestV1 e).mapError fun _ => manifestInvalid
  let stored ← storedEventManifest v e.eventDigest
  if e.kind ∉ protectedEvidenceEventKindsV1 then
    refuseIf (stored ≠ []) (corruption "ordinary event retains an unexpected artifact manifest")
  else
    refuseIf (stored.length ≠ expected.length)
      (corruption "protected event artifact manifest is incomplete")
    let resolved ← (expected.zip stored).mapM (resolveExpected e)
    refuseIf (resolved ≠ stored.map Prod.snd)
      (corruption "retained artifact manifest differs from canonical event semantics")
    (stored.map Prod.snd).forM (rehashArtifact digestBytesV1 v)

/-- `_validate_retained_evidence_locked`. -/
def validateRetainedEvidence (v : EvidenceVault) (events : List EventV1) :
    Except StoreError Unit := do
  events.forM (verifyEventManifest digestBytesV1 v)
  refuseIf v.Orphaned (corruption "canonical vault contains an orphan artifact BLOB")

/-- What a protected append verifies after its insertions. -/
def verifyAppendedManifest (v : EvidenceVault) (e : EventV1) : Except StoreError Unit := do
  verifyEventManifest digestBytesV1 v e
  refuseIf v.Orphaned (corruption "protected append would retain an orphan artifact")

end Retention

/-! ## The environment of a store with this vault -/

/-- What the store calls outside its own logic and its vault. -/
structure VaultEnv where
  events : Primitives
  integrity : IntegrityPrimitives
  recovery : RecoveryPrimitives
  /-- `digest_bytes_v1`. -/
  digestBytesV1 : VaultScheme → List UInt8 → Digest
  Qualified : Type
  Bundles : Type
  Reconstructed : Type
  decideQualified : DecidableEq Qualified
  /-- `validate_retained_receipt_admission_event` over the vault-backed view. -/
  validateReceiptAdmission : EvidenceVault → StagingStore → List EventV1 → EventV1 →
    Except StoreError Unit
  qualifiedScopes : Qualified → List (String × String × IntegrityValidationPolicyV1)
  qualifiedBytes : Qualified → ℕ
  /-- `reconstruct_qualified_lineage_v1`. -/
  reconstructQualifiedLineage : Qualified → IntegrityLineageV1 → Option IntegrityLineageV1 →
    Except IntegrityError Reconstructed
  /-- `validate_qualified_transients_v1`. -/
  validateQualifiedTransients : Qualified → Reconstructed → Bundles → Except IntegrityError Unit
  modeledProfileBytes : ModeledProfile → ℕ

/-- The environment with the vault's tables in it. -/
def VaultEnv.env (W : VaultEnv) : Env where
  events := W.events
  integrity := W.integrity
  recovery := W.recovery
  Vault := EvidenceVault
  Staging := StagingStore
  Qualified := W.Qualified
  Bundles := W.Bundles
  Reconstructed := W.Reconstructed
  decideQualified := W.decideQualified
  emptyVault := ⟨[], []⟩
  vaultIsEmpty v := v.artifacts.isEmpty && v.roles.isEmpty
  vaultUsedBytes := EvidenceVault.usedBytes
  vaultForeignKeys := EvidenceVault.foreignKeys
  vaultAdmitsEvent := EvidenceVault.admitsEvent
  validateRetainedEvidence := Etzio.validateRetainedEvidence W.digestBytesV1
  validateReceiptAdmission := W.validateReceiptAdmission
  retainArtifacts := retainEventArtifacts W.digestBytesV1
  verifyEventManifest := verifyAppendedManifest W.digestBytesV1
  qualifiedScopes := W.qualifiedScopes
  qualifiedBytes := W.qualifiedBytes
  reconstructQualifiedLineage := W.reconstructQualifiedLineage
  validateQualifiedTransients := W.validateQualifiedTransients
  modeledProfileBytes := W.modeledProfileBytes

/-! ## The byte ceiling -/

section Ceiling

variable {digestBytesV1 : VaultScheme → List UInt8 → Digest} {cap : ℕ} {staging : StagingStore}
  {origin : Digest} {s s' : Retention} {v v' : EvidenceVault} {e : EventV1}

/-- The loop counts what the vault holds, within the ceiling. -/
def Retention.Within (cap : ℕ) (s : Retention) : Prop :=
  s.usedBytes = s.vault.usedBytes ∧ s.vault.usedBytes ≤ cap

/-- An insertion changes nothing, or adds the bytes of its row. -/
theorem EvidenceVault.insertArtifact_cases (v : EvidenceVault) (r : VaultArtifactRow) :
    v.insertArtifact r = (v, false) ∨ (v.insertArtifact r).2 = true ∧
      (v.insertArtifact r).1.usedBytes = v.usedBytes + r.byteSize := by
  unfold EvidenceVault.insertArtifact
  split_ifs with htaken
  · exact .inl rfl
  · exact .inr ⟨rfl, by simp [EvidenceVault.usedBytes]⟩

theorem retainVaultArtifact_within {a : VaultArtifactRefV1} (hs : s.Within cap)
    (h : retainVaultArtifact digestBytesV1 cap staging origin s a = .ok s') : s'.Within cap := by
  obtain ⟨hcount, hle⟩ := hs
  unfold retainVaultArtifact at h
  obtain ⟨row, -, h⟩ := bind_eq_ok.mp h
  cases row with
  | some r =>
    obtain ⟨retained, -, h⟩ := bind_eq_ok.mp h
    obtain ⟨resolved, -, h⟩ := bind_eq_ok.mp h
    rw [← Except.ok.inj h]
    exact ⟨hcount, hle⟩
  | none =>
    obtain ⟨⟨resolved, staged⟩, -, h⟩ := bind_eq_ok.mp h
    obtain ⟨size, -, h⟩ := orRefuse_bind_eq_ok.mp h
    obtain ⟨hroom, h⟩ := unit_bind_eq_ok.mp h
    obtain ⟨retained, -, h⟩ := bind_eq_ok.mp h
    obtain ⟨-, h⟩ := unit_bind_eq_ok.mp h
    rw [refuseIf_eq_ok, hcount, Nat.not_lt] at hroom
    obtain rfl := Except.ok.inj h
    unfold Retention.Within
    rcases s.vault.insertArtifact_cases ⟨resolved.identity, size, origin, staged⟩ with
      hx | ⟨hx, hsum⟩
    · simp only [hx, Bool.false_eq_true, if_false]
      exact ⟨hcount, hle⟩
    · simp only [hx, hsum, if_true, hcount]
      exact ⟨trivial, hroom⟩

theorem insertEventArtifactRole_artifacts {a : VaultArtifactRefV1}
    (h : insertEventArtifactRole e v a = .ok v') : v'.artifacts = v.artifacts := by
  unfold insertEventArtifactRole at h
  obtain ⟨row, -, h⟩ := orRefuse_bind_eq_ok.mp h
  rw [mapError_eq_ok] at h
  unfold EvidenceVault.insertRole at h
  obtain ⟨-, h⟩ := unit_bind_eq_ok.mp h
  obtain ⟨-, h⟩ := unit_bind_eq_ok.mp h
  obtain ⟨-, h⟩ := unit_bind_eq_ok.mp h
  rw [← Except.ok.inj h]

/-- The retention of an event's artifacts keeps the vault within its ceiling. -/
theorem retainEventArtifacts_used_le (hle : v.usedBytes ≤ cap)
    (h : retainEventArtifacts digestBytesV1 cap v staging e = .ok v') : v'.usedBytes ≤ cap := by
  unfold retainEventArtifacts at h
  obtain ⟨expected, -, h⟩ := bind_eq_ok.mp h
  obtain ⟨s, hs, h⟩ := bind_eq_ok.mp h
  have hwithin : s.Within cap := foldlM_invariant (fun _ s => s.Within cap) ⟨rfl, hle⟩
    (fun _ _ _ _ _ hi hstep => retainVaultArtifact_within hi hstep) hs
  have hartifacts : v'.artifacts = s.vault.artifacts :=
    foldlM_invariant (fun _ x => x.artifacts = s.vault.artifacts) rfl
      (fun _ _ _ _ _ hi hstep => (insertEventArtifactRole_artifacts hstep).trans hi) h
  rw [EvidenceVault.usedBytes, hartifacts]
  exact hwithin.2

end Ceiling

end Etzio
