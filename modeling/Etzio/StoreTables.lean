import Etzio.BlockedFinality
import Etzio.Reducer
import Etzio.Rows

/-!
# The event store's tables

The tables of `SQLiteEventStore` with the constraints its schema puts on them. A row
keeps the columns its queries read beside the record they were taken from. The
insertions (`insertEvent`, `insertPending`, …) enforce the unique keys and the insert
triggers, and `ForeignKeys` is what SQLite requires of a committed state. All tables
are append-only : nothing here removes or changes a row.

`Env` collects what the store calls outside the modelled logic : the primitives, the
evidence vault (`evidence_artifacts` and `event_artifact_roles` with their staging
store) and the qualified lifecycle. Every result holds for arbitrary values of these.
-/

open CheckedRun Rows

namespace Etzio

/-! ## Errors -/

/-- The exception classes of the store. -/
inductive StoreErrorKind
  | eventStore
  | corruption
  | storeCapacity
  | vaultCapacity
  | operational
  | staleHead
  | closedStream
  | finalityRequired
  | pendingTransition
  | transitionConflict
  | blockedFinality
  | integrityTransition
  deriving DecidableEq, Repr

structure StoreError where
  kind : StoreErrorKind
  message : String
  deriving DecidableEq, Repr

/-- `EventStoreCorruptionError`. -/
def corruption (message : String) : StoreError := ⟨.corruption, message⟩

/-! ## Rows -/

/-- The phases of `integrity_transition_evidence`. -/
inductive EvidencePhase
  | pending
  | anchorStatement
  | checkpointCandidate
  | finalization
  deriving DecidableEq, Repr

/-- `events`. -/
structure EventRow where
  missionId : Digest
  seq : ℕ
  digest : Digest
  prevDigest : Digest
  kind : EventKind
  canonical : EventV1
  deriving DecidableEq

/-- `integrity_pending_transitions`. -/
structure PendingRow where
  eventDigest : Digest
  missionId : Digest
  eventSeq : ℕ
  instanceSequence : ℕ
  recordId : Digest
  record : PendingIntegrityTransitionV1
  deriving DecidableEq

/-- `integrity_anchor_statements`. -/
structure AnchorRow where
  eventDigest : Digest
  recordId : Digest
  anchorStatementId : Digest
  record : AnchorStatementRecordV1
  deriving DecidableEq

/-- `integrity_checkpoint_candidates`. -/
structure CandidateRow where
  eventDigest : Digest
  recordId : Digest
  checkpointId : Digest
  checkpointAttestationId : Digest
  record : CheckpointCandidateRecordV1
  deriving DecidableEq

/-- `integrity_finalizations`. -/
structure FinalizationRow where
  eventDigest : Digest
  recordId : Digest
  record : FinalizedIntegrityTransitionV1
  deriving DecidableEq

/-- `integrity_evidence_artifacts`. -/
structure ArtifactRow where
  evidenceId : Digest
  byteSize : ℕ
  content : List UInt8
  deriving DecidableEq

/-- `integrity_transition_evidence`. -/
structure MappingRow where
  eventDigest : Digest
  phase : EvidencePhase
  slot : ℕ
  evidenceKind : EvidenceKind
  sourceId : String
  evidenceId : Digest
  deriving DecidableEq

/-- `integrity_blocked_observations`. -/
structure ObservationRow where
  eventDigest : Digest
  attemptOrdinal : ℕ
  observationId : Digest
  unresolvedPhase : BlockablePhase
  record : BlockedFinalityObservationV1
  deriving DecidableEq

/-- `integrity_recovery_decisions`. -/
structure DecisionRow where
  decisionId : Digest
  eventDigest : Digest
  blockedObservationId : Digest
  disposition : Disposition
  record : SignedGovernedRecoveryDecisionV1
  deriving DecidableEq

/-- `integrity_recovery_profile`. -/
structure RecoveryProfileRow where
  recoveryProfileId : Digest
  profile : BlockedFinalityRecoveryProfileV1
  deriving DecidableEq

/-- `SignedCheckpoint`, the row of `signed_checkpoints`. -/
structure SignedCheckpoint where
  missionId : Digest
  eventDigest : Digest
  signerId : String
  algorithm : String
  signedAt : ℕ
  signature : List UInt8
  deriving DecidableEq

/-- The scope, policy and authority a modeled profile is enrolled under. -/
structure ModeledProfile where
  serviceInstanceId : String
  environmentId : String
  validationPolicy : IntegrityValidationPolicyV1
  authorityBinding : ModeledIntegrityAuthorityBindingV1
  deriving DecidableEq

/-- `store_profile`. -/
inductive StoreProfile
  | legacy
  | modeled (profile : ModeledProfile)
  deriving DecidableEq

/-- The tables, over a vault and a pair of qualified profiles. -/
structure Tables (Vault Qualified : Type) where
  profile : StoreProfile
  events : List EventRow
  pending : List PendingRow
  anchors : List AnchorRow
  candidates : List CandidateRow
  finalizations : List FinalizationRow
  artifacts : List ArtifactRow
  mappings : List MappingRow
  recoveryProfile : Option RecoveryProfileRow
  observations : List ObservationRow
  decisions : List DecisionRow
  acceptanceProfile : Option Qualified
  signedCheckpoints : List SignedCheckpoint
  vault : Vault

/-- What the store calls outside its own logic. -/
structure Env where
  events : Primitives
  integrity : IntegrityPrimitives
  recovery : RecoveryPrimitives
  /-- `evidence_artifacts` and `event_artifact_roles`. -/
  Vault : Type
  /-- The staging `FileEvidenceStore` of a protected append. -/
  Staging : Type
  /-- The qualified time and head-authority profiles. -/
  Qualified : Type
  /-- The transient bundles a submitted record carries. -/
  Bundles : Type
  /-- What `reconstruct_qualified_lineage_v1` returns. -/
  Reconstructed : Type
  decideQualified : DecidableEq Qualified
  emptyVault : Vault
  /-- No vault row exists. -/
  vaultIsEmpty : Vault → Bool
  /-- `_vault_used_bytes_locked`. -/
  vaultUsedBytes : Vault → ℕ
  /-- The foreign keys of the vault tables into the events. -/
  vaultForeignKeys : Vault → List EventRow → Bool
  /-- The insert triggers of `events` that read the vault. -/
  vaultAdmitsEvent : Vault → EventRow → Except String Unit
  /-- `_validate_retained_evidence_locked`. -/
  validateRetainedEvidence : Vault → List EventV1 → Except StoreError Unit
  /-- `validate_retained_receipt_admission_event` over the vault-backed view. -/
  validateReceiptAdmission : Vault → Staging → List EventV1 → EventV1 → Except StoreError Unit
  /-- Retention of the event's artifact manifest, under a byte ceiling. -/
  retainArtifacts : ℕ → Vault → Staging → EventV1 → Except StoreError Vault
  /-- `_verify_event_manifest_locked` and the orphan check after a protected append. -/
  verifyEventManifest : Vault → EventV1 → Except StoreError Unit
  /-- The scope and policy of the qualified time profile and of the head profile. -/
  qualifiedScopes : Qualified → List (String × String × IntegrityValidationPolicyV1)
  qualifiedBytes : Qualified → ℕ
  /-- `reconstruct_qualified_lineage_v1`. -/
  reconstructQualifiedLineage : Qualified → IntegrityLineageV1 → Option IntegrityLineageV1 →
    Except IntegrityError Reconstructed
  /-- `validate_qualified_transients_v1`. -/
  validateQualifiedTransients : Qualified → Reconstructed → Bundles → Except IntegrityError Unit
  modeledProfileBytes : ModeledProfile → ℕ

/-- The tables of a store in an environment. -/
abbrev Env.Db (E : Env) : Type := Tables E.Vault E.Qualified

instance (E : Env) : DecidableEq E.Qualified := E.decideQualified

/-- A fresh store. -/
def Env.freshDb (E : Env) : E.Db where
  profile := .legacy
  events := []
  pending := []
  anchors := []
  candidates := []
  finalizations := []
  artifacts := []
  mappings := []
  recoveryProfile := none
  observations := []
  decisions := []
  acceptanceProfile := none
  signedCheckpoints := []
  vault := E.emptyVault

/-- `TERMINAL_KINDS`. -/
def terminalKinds : List EventKind :=
  [.missionClosed, .missionAdmissionRefused, .scanFailed, .scanCancelled, .scanTimedOut,
    .budgetExhausted]

/-- `PROTECTED_EVIDENCE_EVENT_KINDS_V1`. -/
def protectedEvidenceEventKindsV1 : List EventKind :=
  [.authorityAdmitted, .missionOpened, .verificationArtifactsResolved, .verifierReceiptAdmitted]

/-! ## Constraints -/

section Constraints

variable {V Q : Type}

/-- The primary and unique keys the queries rely on. -/
structure Tables.Keys (t : Tables V Q) : Prop where
  eventDigest : (t.events.map EventRow.digest).Nodup
  eventSeq : (t.events.map fun r => (r.missionId, r.seq)).Nodup
  pendingDigest : (t.pending.map PendingRow.eventDigest).Nodup
  pendingSequence : (t.pending.map PendingRow.instanceSequence).Nodup
  pendingMission : (t.pending.map fun r => (r.missionId, r.eventSeq)).Nodup
  anchorDigest : (t.anchors.map AnchorRow.eventDigest).Nodup
  candidateDigest : (t.candidates.map CandidateRow.eventDigest).Nodup
  finalizationDigest : (t.finalizations.map FinalizationRow.eventDigest).Nodup
  artifactId : (t.artifacts.map ArtifactRow.evidenceId).Nodup
  observationAttempt : (t.observations.map fun r => (r.eventDigest, r.attemptOrdinal)).Nodup
  observationId : (t.observations.map ObservationRow.observationId).Nodup
  decisionId : (t.decisions.map DecisionRow.decisionId).Nodup
  decisionObservation : (t.decisions.map DecisionRow.blockedObservationId).Nodup

/-- The foreign keys of the schema. -/
structure Tables.ForeignKeys (vaultForeignKeys : V → List EventRow → Bool) (t : Tables V Q) :
    Prop where
  pending : ∀ r ∈ t.pending, ∃ e ∈ t.events, e.digest = r.eventDigest
  anchor : ∀ r ∈ t.anchors, ∃ p ∈ t.pending, p.eventDigest = r.eventDigest
  candidate : ∀ r ∈ t.candidates, ∃ a ∈ t.anchors, a.eventDigest = r.eventDigest
  finalization : ∀ r ∈ t.finalizations, ∃ c ∈ t.candidates, c.eventDigest = r.eventDigest
  mapping : ∀ r ∈ t.mappings, ∃ p ∈ t.pending, p.eventDigest = r.eventDigest
  artifact : ∀ r ∈ t.mappings, ∃ a ∈ t.artifacts, a.evidenceId = r.evidenceId
  observation : ∀ r ∈ t.observations, ∃ p ∈ t.pending, p.eventDigest = r.eventDigest
  decision : ∀ r ∈ t.decisions, ∃ o ∈ t.observations, o.observationId = r.blockedObservationId
  checkpoint : ∀ r ∈ t.signedCheckpoints, ∃ e ∈ t.events, e.missionId = r.missionId ∧
    e.digest = r.eventDigest
  vault : vaultForeignKeys t.vault t.events = true

instance (f : V → List EventRow → Bool) (t : Tables V Q) : Decidable (t.ForeignKeys f) :=
  decidable_of_iff ((∀ r ∈ t.pending, ∃ e ∈ t.events, e.digest = r.eventDigest) ∧
      (∀ r ∈ t.anchors, ∃ p ∈ t.pending, p.eventDigest = r.eventDigest) ∧
      (∀ r ∈ t.candidates, ∃ a ∈ t.anchors, a.eventDigest = r.eventDigest) ∧
      (∀ r ∈ t.finalizations, ∃ c ∈ t.candidates, c.eventDigest = r.eventDigest) ∧
      (∀ r ∈ t.mappings, ∃ p ∈ t.pending, p.eventDigest = r.eventDigest) ∧
      (∀ r ∈ t.mappings, ∃ a ∈ t.artifacts, a.evidenceId = r.evidenceId) ∧
      (∀ r ∈ t.observations, ∃ p ∈ t.pending, p.eventDigest = r.eventDigest) ∧
      (∀ r ∈ t.decisions, ∃ o ∈ t.observations, o.observationId = r.blockedObservationId) ∧
      (∀ r ∈ t.signedCheckpoints, ∃ e ∈ t.events, e.missionId = r.missionId ∧
        e.digest = r.eventDigest) ∧ f t.vault t.events = true)
    ⟨fun ⟨a, b, c, d, e, g, h, i, j, k⟩ => ⟨a, b, c, d, e, g, h, i, j, k⟩,
      fun ⟨a, b, c, d, e, g, h, i, j, k⟩ => ⟨a, b, c, d, e, g, h, i, j, k⟩⟩

/-- The event of a pending row has a finalization. -/
def Tables.IsFinalized (t : Tables V Q) (d : Digest) : Prop :=
  ∃ f ∈ t.finalizations, f.eventDigest = d

instance (t : Tables V Q) (d : Digest) : Decidable (t.IsFinalized d) :=
  inferInstanceAs (Decidable (∃ f ∈ t.finalizations, _))

/-- The pending rows without a finalization, in instance order. -/
def Tables.unresolved (t : Tables V Q) : List PendingRow :=
  (orderBy PendingRow.instanceSequence t.pending).filter fun p => ¬t.IsFinalized p.eventDigest

/-- A retained decision seals the instance. -/
def Tables.Sealed (t : Tables V Q) : Prop :=
  ∃ d ∈ t.decisions, d.disposition = .instanceSealed

instance (t : Tables V Q) : Decidable t.Sealed :=
  inferInstanceAs (Decidable (∃ d ∈ t.decisions, _))

end Constraints

/-! ## Insertions -/

section Insert

variable (E : Env)

/-- SQLite refuses the row of a key that is taken. -/
def uniqueMessage : String := "UNIQUE constraint failed"

/-- The rows of a mission, `_rows`. -/
def Tables.missionRows {V Q : Type} (t : Tables V Q) (m : Digest) : List EventRow :=
  orderBy EventRow.seq (t.events.filter fun r => r.missionId = m)

/-- Insert into `events`, with its triggers. -/
def insertEvent (t : E.Db) (r : EventRow) : Except String E.Db := do
  refuseIf (t.profile ≠ .legacy ∧ ¬∃ p ∈ t.pending, p.eventDigest = r.digest ∧
      p.missionId = r.missionId ∧ p.eventSeq = r.seq)
    "modeled integrity event omitted its pending transition"
  refuseIf (∃ p ∈ t.pending, ¬t.IsFinalized p.eventDigest ∧ p.eventDigest ≠ r.digest)
    "an instance-global integrity transition is pending"
  let last := topBy EventRow.seq (t.events.filter fun x => x.missionId = r.missionId)
  refuseIf (∃ x ∈ t.events, x.missionId = r.missionId ∧ x.kind ∈ terminalKinds)
    "mission stream is terminal"
  refuseIf (r.seq ≠ last.elim 0 fun x => x.seq + 1) "mission sequence gap or fork"
  refuseIf (r.prevDigest ≠ last.elim genesisDigest EventRow.digest) "mission predecessor mismatch"
  E.vaultAdmitsEvent t.vault r
  refuseIf (∃ x ∈ t.events, x.digest = r.digest ∨ (x.missionId, x.seq) = (r.missionId, r.seq))
    uniqueMessage
  return { t with events := t.events ++ [r] }

/-- Insert into `integrity_pending_transitions`, with its triggers. -/
def insertPending (t : E.Db) (r : PendingRow) : Except String E.Db := do
  refuseIf (t.profile = .legacy) "typed integrity requires the modeled integrity profile"
  refuseIf (r.instanceSequence ≠ t.finalizations.length)
    "integrity instance sequence is not the finalized successor"
  refuseIf (∃ p ∈ t.pending, ¬t.IsFinalized p.eventDigest)
    "an instance-global integrity transition is pending"
  refuseIf (∃ p ∈ t.pending, p.eventDigest = r.eventDigest ∨
      p.instanceSequence = r.instanceSequence ∨ p.recordId = r.recordId ∨
      (p.missionId, p.eventSeq) = (r.missionId, r.eventSeq))
    uniqueMessage
  return { t with pending := t.pending ++ [r] }

/-- Insert into `integrity_anchor_statements`. -/
def insertAnchor (t : E.Db) (r : AnchorRow) : Except String E.Db := do
  refuseIf (∃ a ∈ t.anchors, a.eventDigest = r.eventDigest ∨ a.recordId = r.recordId ∨
      a.anchorStatementId = r.anchorStatementId) uniqueMessage
  return { t with anchors := t.anchors ++ [r] }

/-- Insert into `integrity_checkpoint_candidates`. -/
def insertCandidate (t : E.Db) (r : CandidateRow) : Except String E.Db := do
  refuseIf (∃ c ∈ t.candidates, c.eventDigest = r.eventDigest ∨ c.recordId = r.recordId ∨
      c.checkpointId = r.checkpointId ∨ c.checkpointAttestationId = r.checkpointAttestationId)
    uniqueMessage
  return { t with candidates := t.candidates ++ [r] }

/-- Insert into `integrity_finalizations`. -/
def insertFinalization (t : E.Db) (r : FinalizationRow) : Except String E.Db := do
  refuseIf (∃ f ∈ t.finalizations, f.eventDigest = r.eventDigest ∨ f.recordId = r.recordId)
    uniqueMessage
  return { t with finalizations := t.finalizations ++ [r] }

/-- Insert into `integrity_evidence_artifacts`, doing nothing when the identity is taken. -/
def insertArtifact (t : E.Db) (r : ArtifactRow) : E.Db :=
  if ∃ a ∈ t.artifacts, a.evidenceId = r.evidenceId then t
  else { t with artifacts := t.artifacts ++ [r] }

/-- Insert into `integrity_transition_evidence`, doing nothing when the slot is taken. -/
def insertMapping (t : E.Db) (r : MappingRow) : Except String E.Db :=
  if ∃ m ∈ t.mappings, m.eventDigest = r.eventDigest ∧ m.phase = r.phase ∧ m.slot = r.slot then
    .ok t
  else do
    refuseIf (∃ m ∈ t.mappings, m.eventDigest = r.eventDigest ∧ m.phase = r.phase ∧
        m.evidenceKind = r.evidenceKind ∧ m.sourceId = r.sourceId ∧ m.evidenceId = r.evidenceId)
      uniqueMessage
    return { t with mappings := t.mappings ++ [r] }

/-- Insert into `integrity_blocked_observations`, with its triggers. -/
def insertObservation (t : E.Db) (r : ObservationRow) : Except String E.Db := do
  refuseIf (t.IsFinalized r.eventDigest) "a finalized integrity transition cannot be blocked"
  refuseIf t.Sealed "a sealed instance admits no further blocked observation"
  refuseIf (∃ o ∈ t.observations, o.observationId = r.observationId ∨
      (o.eventDigest, o.attemptOrdinal) = (r.eventDigest, r.attemptOrdinal)) uniqueMessage
  return { t with observations := t.observations ++ [r] }

/-- The observation rows of an event, by ordinal. -/
def Tables.observationRows {V Q : Type} (t : Tables V Q) (d : Digest) : List ObservationRow :=
  orderBy ObservationRow.attemptOrdinal (t.observations.filter fun o => o.eventDigest = d)

/-- Insert into `integrity_recovery_decisions`, with its triggers. -/
def insertDecision (t : E.Db) (r : DecisionRow) : Except String E.Db := do
  refuseIf t.Sealed "a sealed instance admits no further recovery decision"
  refuseIf (¬∃ o ∈ t.observations, o.observationId = r.blockedObservationId ∧
      o.eventDigest = r.eventDigest ∧
      ∀ x ∈ t.observations, x.eventDigest = r.eventDigest → x.attemptOrdinal ≤ o.attemptOrdinal)
    "a recovery decision must answer the latest blocked observation"
  refuseIf (∃ x ∈ t.decisions, x.decisionId = r.decisionId ∨
      x.blockedObservationId = r.blockedObservationId) uniqueMessage
  return { t with decisions := t.decisions ++ [r] }

/-- Insert the singleton of `integrity_recovery_profile`. -/
def insertRecoveryProfile (t : E.Db) (r : RecoveryProfileRow) : Except String E.Db := do
  refuseIf (t.recoveryProfile ≠ none) uniqueMessage
  return { t with recoveryProfile := some r }

/-- Insert the singleton of `integrity_acceptance_profile`, with its triggers. -/
def insertAcceptanceProfile (t : E.Db) (q : E.Qualified) : Except String E.Db := do
  refuseIf (t.profile = .legacy) "qualified acceptance requires an enrolled modeled profile"
  refuseIf (t.events ≠ []) "qualified acceptance must be enrolled before any event"
  refuseIf (t.acceptanceProfile ≠ none) uniqueMessage
  return { t with acceptanceProfile := some q }

/-- Update `store_profile`, with its trigger. -/
def updateStoreProfile (t : E.Db) (p : ModeledProfile) : Except String E.Db := do
  refuseIf (¬(t.profile = .legacy ∧ t.events = [] ∧ t.signedCheckpoints = [] ∧
      E.vaultIsEmpty t.vault = true ∧ t.pending = []))
    "store profile transition is forbidden"
  return { t with profile := .modeled p }

/-- Insert into `signed_checkpoints`. -/
def insertSignedCheckpoint (t : E.Db) (c : SignedCheckpoint) : Except String E.Db := do
  refuseIf (∃ x ∈ t.signedCheckpoints, x.missionId = c.missionId ∧
      x.eventDigest = c.eventDigest ∧ x.signerId = c.signerId) uniqueMessage
  return { t with signedCheckpoints := t.signedCheckpoints ++ [c] }

/-- `COMMIT` : the deferred foreign keys must hold. -/
def commit (t : E.Db) : Except String E.Db := do
  refuseIf (¬t.ForeignKeys E.vaultForeignKeys) "FOREIGN KEY constraint failed"
  return t

end Insert

end Etzio
