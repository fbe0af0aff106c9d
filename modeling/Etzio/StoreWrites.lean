import Etzio.StoreReplay

/-!
# The store's transactions

The body of every operation of `SQLiteEventStore`, between the authentication of the
state it starts from and its `COMMIT`. A body refuses, commits the state unchanged
(reads and resubmissions of what is already retained) or commits new rows ; `Commit`
also says whether the write publishes the validation cache without a replay. A refusal
is rolled back, so a body returns no tables with it.

A nested read inside a writer transaction authenticates against the cache the writer
has just validated, so only its query appears here. Provider bundles a caller submits
with a record are an argument beside the record.
-/

open CheckedRun Rows

namespace Etzio

variable (E : Env)

/-- What a transaction that reached its `COMMIT` did to the tables. -/
inductive Commit
  | unchanged
  | wrote (tables : E.Db) (published : Bool)

/-- `EventStoreError` itself. -/
def storeError (message : String) : StoreError := ⟨.eventStore, message⟩

/-- `IntegrityTransitionConflictError`. -/
def conflict (message : String) : StoreError := ⟨.transitionConflict, message⟩

/-! ## Streams -/

/-- The head of a decoded stream. -/
def headOf (events : List EventV1) : Digest :=
  events.getLast?.elim genesisDigest EventV1.eventDigest

/-- One row of `_decode_rows`, after the events before it. -/
def decodeRow (m : Digest) (events : List EventV1) (r : EventRow) :
    Except StoreError (List EventV1) := do
  decodeEvent E r.canonical "invalid canonical event: "
  refuseIf (r.seq ≠ events.length ∨ r.canonical.seq ≠ events.length ∨
      r.canonical.missionId ≠ m ∨ r.digest ≠ r.canonical.eventDigest ∨
      r.prevDigest ≠ r.canonical.prevDigest ∨ r.kind ≠ r.canonical.kind ∨
      r.canonical.prevDigest ≠ headOf events)
    (corruption "event metadata or predecessor mismatch")
  return events ++ [r.canonical]

/-- `_decode_rows` of a mission's rows. -/
def decodeStream (t : E.Db) (m : Digest) : Except StoreError (List EventV1) :=
  (t.missionRows m).foldlM (decodeRow E m) []

/-- `_validate_retained_lifecycle`, which an empty stream skips. -/
def validateRetainedLifecycle (events : List EventV1) : Except StoreError Unit :=
  if events = [] then .ok ()
  else do
    let _ ← (reduceEvents E.events events).mapError fun m =>
      corruption ("retained mission lifecycle is invalid: " ++ m)

/-- `_validate_proposed_lifecycle`. -/
def validateProposedLifecycle (events : List EventV1) : Except StoreError Unit := do
  let _ ← (reduceEvents E.events events).mapError fun m =>
    storeError ("illegal mission lifecycle: " ++ m)

/-- The stream of a mission with its lifecycle and evidence verified. -/
def verifiedStream (t : E.Db) (m : Digest) : Except StoreError (List EventV1) := do
  let events ← decodeStream E t m
  validateRetainedLifecycle E events
  E.validateRetainedEvidence t.vault events
  return events

/-- `_prepare_append_locked`. -/
def prepareAppend (t : E.Db) (e : EventV1) (expectedHead : Digest) :
    Except StoreError (List EventV1) := do
  let events ← verifiedStream E t e.missionId
  refuseIf (expectedHead ≠ headOf events) ⟨.staleHead, "stale mission head"⟩
  refuseIf (∃ x ∈ events.getLast?, x.kind ∈ terminalKinds) ⟨.closedStream, "mission ended"⟩
  refuseIf (e.seq ≠ events.length) (storeError "event sequence gap or fork")
  refuseIf (e.prevDigest ≠ headOf events)
    ⟨.staleHead, "event predecessor does not match head"⟩
  validateProposedLifecycle E (events ++ [e])
  return events

/-- The row `_insert_event_locked` inserts. -/
def EventRow.ofEvent (e : EventV1) : EventRow where
  missionId := e.missionId
  seq := e.seq
  digest := e.eventDigest
  prevDigest := e.prevDigest
  kind := e.kind
  canonical := e

/-! ## Capacity -/

/-- `_MAX_INTEGRITY_RECORD_BYTES_V1`. -/
def maxIntegrityRecordBytesV1 : ℕ := 16 * 1024 * 1024

/-- `_MAX_INTEGRITY_EVIDENCE_BYTES_V1`. -/
def maxIntegrityEvidenceBytesV1 : ℕ := 1024 * 1024

/-- `_MAX_INTEGRITY_TRANSITION_EVIDENCE_BYTES_V1`. -/
def maxIntegrityTransitionEvidenceBytesV1 : ℕ := 16 * 1024 * 1024

/-- `_INTEGRITY_FINALITY_CAPACITY_RESERVE_BYTES_V1`. -/
def integrityFinalityCapacityReserveBytesV1 : ℕ :=
  6 * maxIntegrityRecordBytesV1 + maxIntegrityTransitionEvidenceBytesV1

/-- The length of a digest's text. -/
def digestTextBytes : ℕ := 71

/-- `_logical_evidence_storage_used_locked`. -/
def logicalEvidenceStorageUsed (t : E.Db) : ℕ :=
  E.vaultUsedBytes t.vault + (t.artifacts.map ArtifactRow.byteSize).sum +
    (t.pending.map fun r => E.integrity.pendingBytes r.record).sum +
    (t.anchors.map fun r => E.integrity.anchorBytes r.record).sum +
    (t.candidates.map fun r => E.integrity.candidateBytes r.record).sum +
    (t.finalizations.map fun r => E.integrity.finalizationBytes r.record).sum +
    (t.observations.map fun r => E.recovery.observationBytes r.record).sum +
    (t.decisions.map fun r => E.recovery.decisionBytes r.record).sum +
    (t.recoveryProfile.elim 0 fun r => digestTextBytes + E.recovery.profileBytes r.profile) +
    t.acceptanceProfile.elim 0 E.qualifiedBytes +
    match t.profile with
    | .legacy => 0
    | .modeled p => E.modeledProfileBytes p

/-- `_require_integrity_enrollment_capacity_locked`. -/
def requireIntegrityEnrollmentCapacity (cap : ℕ) (t : E.Db) (additional : ℕ) :
    Except StoreError Unit :=
  refuseIf (cap < logicalEvidenceStorageUsed E t + additional +
      integrityFinalityCapacityReserveBytesV1)
    ⟨.vaultCapacity,
      "modeled integrity enrollment lacks exact profile and worst-case finality capacity"⟩

/-- `_reserve_integrity_finality_capacity_locked`. -/
def reserveIntegrityFinalityCapacity (cap : ℕ) (t : E.Db) : Except StoreError Unit :=
  refuseIf (cap < logicalEvidenceStorageUsed E t + integrityFinalityCapacityReserveBytesV1)
    ⟨.vaultCapacity, "integrity transition lacks worst-case finality evidence capacity"⟩

/-- The size check of `_snapshot_integrity_record`. -/
def snapshotIntegrityRecord (bytes : ℕ) : Except StoreError Unit :=
  refuseIf (bytes = 0 ∨ maxIntegrityRecordBytesV1 < bytes)
    (storeError "integrity recovery record exceeds its canonical byte ceiling")

/-! ## Provider evidence -/

section Evidence

variable (rejected : String → StoreError)

/-- The typed BLOB contract of one piece of evidence. -/
def ProviderEvidenceBlobV1.WellFormed (I : IntegrityPrimitives) (b : ProviderEvidenceBlobV1) :
    Prop :=
  b.sourceId ≠ "" ∧ b.sourceId.length ≤ 256 ∧ b.content ≠ [] ∧
    b.content.length ≤ maxIntegrityEvidenceBytesV1 ∧ b.evidenceId = I.contentDigest b.content

instance (I : IntegrityPrimitives) (b : ProviderEvidenceBlobV1) : Decidable (b.WellFormed I) :=
  inferInstanceAs (Decidable (_ ∧ _))

/-- The evidence an event has not retained yet, by identity. -/
def newEvidence (existing : List Digest) (blobs : List ProviderEvidenceBlobV1) :
    List (Digest × List UInt8) :=
  ((blobs.filter fun b => b.evidenceId ∉ existing).map ProviderEvidenceBlobV1.evidenceId).dedup.map
    fun i => (i, (blobs.filter fun b => b.evidenceId = i).getLast?.elim [] (·.content))

/-- Insert one artifact and read it back. -/
def retainArtifact (t : E.Db) (x : Digest × List UInt8) : Except StoreError E.Db := do
  let t := insertArtifact E t ⟨x.1, x.2.length, x.2⟩
  refuseIf ((findBy ArtifactRow.evidenceId x.1 t.artifacts).map (fun a => (a.byteSize, a.content)) ≠
      some (x.2.length, x.2))
    (conflict "provider evidence identity names different retained bytes")
  return t

/-- Insert one evidence slot and read it back. -/
def retainSlot (d : Digest) (phase : EvidencePhase) (t : E.Db)
    (x : ProviderEvidenceBlobV1 × ℕ) : Except StoreError E.Db := do
  let t ← (insertMapping E t ⟨d, phase, x.2, x.1.evidenceKind, x.1.sourceId, x.1.evidenceId⟩
    ).mapError rejected
  refuseIf (((t.mappings.find? fun m => m.eventDigest = d ∧ m.phase = phase ∧ m.slot = x.2).map
      fun m => (m.evidenceKind, m.sourceId, m.evidenceId)) ≠
        some (x.1.evidenceKind, x.1.sourceId, x.1.evidenceId))
    (conflict "integrity evidence slot was reused with different material")
  return t

/-- `_retain_integrity_evidence_locked`. -/
def retainIntegrityEvidence (cap : ℕ) (t : E.Db) (d : Digest) (phase : EvidencePhase)
    (blobs : List ProviderEvidenceBlobV1) : Except StoreError E.Db := do
  refuseIf (256 < blobs.length) (storeError "integrity provider evidence must be a bounded tuple")
  let existing := (t.mappings.filter fun m => m.eventDigest = d).map MappingRow.evidenceId
  refuseIf (∃ b ∈ blobs, ¬b.WellFormed E.integrity)
    (storeError "integrity provider evidence violates its typed BLOB contract")
  refuseIf (¬blobs.Pairwise ProviderEvidenceBlobV1.Before)
    (storeError "integrity provider evidence must be canonical and unique")
  let fresh := newEvidence existing blobs
  let newGlobalBytes := ((fresh.filter fun x => ∀ a ∈ t.artifacts, a.evidenceId ≠ x.1).map
    fun x => x.2.length).sum
  refuseIf (cap < logicalEvidenceStorageUsed E t + newGlobalBytes)
    ⟨.vaultCapacity, "integrity finality evidence exceeds logical database capacity"⟩
  let retainedTotal := ((t.artifacts.filter fun a => a.evidenceId ∈ existing).map
    ArtifactRow.byteSize).sum
  refuseIf (maxIntegrityTransitionEvidenceBytesV1 <
      retainedTotal + (fresh.map fun x => x.2.length).sum)
    ⟨.storeCapacity, "integrity transition evidence exceeds its aggregate byte ceiling"⟩
  let t ← fresh.foldlM (retainArtifact E) t
  let t ← blobs.zipIdx.foldlM (retainSlot E rejected d phase) t
  refuseIf ((t.mappings.filter fun m => m.eventDigest = d ∧ m.phase = phase).length ≠ blobs.length)
    (conflict "integrity evidence phase has additional retained material")
  return t

end Evidence

/-! ## Appends -/

/-- SQLite's refusal of an append : a terminal stream is reported as closed. -/
def appendRejected (message : String) : StoreError :=
  if "terminal".toList <:+: message.toList then ⟨.closedStream, message⟩
  else storeError ("SQLite rejected event append: " ++ message)

/-- An exception of the integrity contract that no handler converts. -/
def uncaught (x : IntegrityError) : StoreError := ⟨.integrityTransition, x.message⟩

/-- An exception of the recovery contract that no handler converts. -/
def uncaughtRecovery (x : IntegrityError) : StoreError := ⟨.blockedFinality, x.message⟩

/-- A failed validation of a submitted record. -/
def validationFailed (what : String) (x : IntegrityError) : StoreError :=
  storeError (what ++ " validation failed (" ++ x.reasonCode ++ "): " ++ x.message)

/-- The checks of `_insert_integrity_pending_locked` before its insertion. -/
def admitPending (t : E.Db) (e : EventV1) (p : PendingIntegrityTransitionV1)
    (bundles : E.Bundles) : Except StoreError Unit := do
  snapshotIntegrityRecord (E.integrity.pendingBytes p)
  refuseIf (p.eventDigest ≠ e.eventDigest ∨ p.missionId ≠ e.missionId ∨ p.eventSeq ≠ e.seq)
    (storeError "pending integrity dossier does not bind the proposed event")
  match t.profile with
  | .legacy =>
    .error (storeError "pending integrity dossier differs from the enrolled store profile")
  | .modeled m =>
    refuseIf (p.decision.serviceInstanceId ≠ m.serviceInstanceId ∨
        p.decision.environmentId ≠ m.environmentId ∨ p.validationPolicy ≠ m.validationPolicy ∨
        ¬matchesAuthorityBinding E p none m.authorityBinding)
      (storeError "pending integrity dossier differs from the enrolled store profile")
    let previous ← previousIntegrityLineages E t e.missionId
    (validatePendingTransition E.integrity e p previous.1 previous.2 m.serviceInstanceId
      m.environmentId p.validationPolicy).mapError (validationFailed "pending integrity")
    let l ← (IntegrityLineageV1.construct E.integrity p none none none).mapError uncaught
    verifyQualifiedLineage E t l previous.1 (some bundles)

/-- `_insert_integrity_pending_locked`. -/
def insertIntegrityPending (cap : ℕ) (t : E.Db) (e : EventV1) (p : PendingIntegrityTransitionV1)
    (bundles : E.Bundles) : Except StoreError E.Db := do
  admitPending E t e p bundles
  reserveIntegrityFinalityCapacity E cap t
  let t ← (insertPending E t ⟨p.eventDigest, p.missionId, p.eventSeq, p.instanceSequence,
    E.integrity.pendingRecordId p, p⟩).mapError appendRejected
  retainIntegrityEvidence E appendRejected cap t p.eventDigest .pending p.providerEvidence

/-- The request of an append. A protected event comes with its staging store, and an
event of a modeled store with its dossier and the bundles submitted with it. -/
structure AppendRequest where
  event : EventV1
  expectedHead : Digest
  staging : Option E.Staging
  dossier : Option (PendingIntegrityTransitionV1 × E.Bundles)

/-- `_validate_append_request`. -/
def validateAppendRequest (e : EventV1) : Except StoreError Unit :=
  (e.verify E.events).mapError fun m => storeError ("refusing invalid event: " ++ m)

/-- The checks of `_append_verified_event` before its transaction. -/
def AppendRequest.validate (r : AppendRequest E) : Except StoreError Unit := do
  validateAppendRequest E r.event
  refuseIf (¬(r.event.kind ∈ protectedEvidenceEventKindsV1 ↔ r.staging.isSome))
    (storeError "protected evidence events and vault retention must be paired")

/-- The checks of `_append_verified_event` before its insertions. -/
def admitAppend (t : E.Db) (r : AppendRequest E) : Except StoreError Unit := do
  let unresolved ← unresolvedIntegrityDigest t
  refuseIf (unresolved ≠ none ∧ unresolved ≠ some r.event.eventDigest)
    ⟨.pendingTransition, "an instance-global integrity transition is pending"⟩
  refuseIf (t.profile ≠ .legacy ∧ r.dossier.isNone)
    ⟨.finalityRequired, "modeled integrity profile requires an atomic pending dossier"⟩
  refuseIf (t.profile = .legacy ∧ r.dossier.isSome)
    (storeError "typed integrity pending state requires modeled profile enrollment")
  let events ← prepareAppend E t r.event r.expectedHead
  if r.event.kind = .verifierReceiptAdmitted then
    match r.staging with
    | none => .error (storeError "receipt admission omitted its staging evidence store")
    | some s => E.validateReceiptAdmission t.vault s events r.event
  else .ok ()

/-- Retain the artifacts a protected event claims. -/
def retainStaging (cap : ℕ) (t : E.Db) (r : AppendRequest E) : Except StoreError E.Db :=
  match r.staging with
  | none => .ok t
  | some s => do
    let v ← E.retainArtifacts cap t.vault s r.event
    return { t with vault := v }

/-- Insert the dossier of a modeled append. -/
def retainDossier (cap : ℕ) (t : E.Db) (r : AppendRequest E) : Except StoreError E.Db :=
  match r.dossier with
  | none => .ok t
  | some x => insertIntegrityPending E cap t r.event x.1 x.2

/-- The insertions of `_append_verified_event`. -/
def appendRows (cap : ℕ) (t : E.Db) (r : AppendRequest E) : Except StoreError E.Db := do
  let t ← retainStaging E cap t r
  let t ← retainDossier E cap t r
  (insertEvent E t (.ofEvent r.event)).mapError appendRejected

/-- The dossier of a modeled append is read back. -/
def checkDossier (t : E.Db) (r : AppendRequest E) : Except StoreError Unit :=
  match r.dossier with
  | none => .ok ()
  | some x => do
    let l ← loadIntegrityLineage E t r.event.eventDigest
    refuseIf (l ≠ some ⟨x.1, none, none, none⟩)
      (corruption "retained pending integrity extension did not replay exactly")

/-- What `_append_verified_event` reads back before it commits. -/
def checkAppended (t : E.Db) (r : AppendRequest E) : Except StoreError Unit := do
  if r.staging.isSome then E.verifyEventManifest t.vault r.event
  let retained ← eventForIntegrityDigest E t r.event.eventDigest
  refuseIf (retained ≠ r.event) (corruption "retained event did not replay exactly after append")
  checkDossier E t r

/-- The transaction of `_append_verified_event`. -/
def appendVerifiedEvent (cap : ℕ) (t : E.Db) (r : AppendRequest E) :
    Except StoreError (Commit E × EventV1) := do
  admitAppend E t r
  let t' ← appendRows E cap t r
  checkAppended E t' r
  let t' ← (commit E t').mapError appendRejected
  return (.wrote t' true, r.event)

/-! ## Phase writes -/

/-- `_require_governed_phase_write_locked`. -/
def requireGovernedPhaseWrite (t : E.Db) (l : IntegrityLineageV1) : Except StoreError Unit := do
  refuseIf t.Sealed (conflict "a sealed instance cannot advance an integrity phase")
  let observations ← blockedObservations E t l.pending.eventDigest
  match observations.getLast? with
  | none => .ok ()
  | some latest => do
    let row ← orRefuse (findBy DecisionRow.blockedObservationId latest.observationId t.decisions)
      (conflict "the latest blocked observation has no governed retry decision")
    let profile ← requireEnrolledRecoveryProfile E t
    let resolved ← (resolveBlockedFinalityV1 E.recovery profile observations
      latest.unresolvedPhase.lineagePhase latest.unresolvedPhaseRecordId row.record).mapError
        uncaughtRecovery
    refuseIf (resolved.disposition ≠ .retryAuthorized)
      (conflict "the latest recovery decision does not authorize phase progress")

/-- A phase write of a record that is already retained : the same record is verified
again and returned, another one is a conflict. -/
def resubmitPhase {ρ : Type} (t : E.Db) (l : IntegrityLineageV1) (d : Digest) (same : Bool)
    (message : String) (bundles : E.Bundles) (reply : ρ) :
    Except StoreError (Commit E × ρ) := do
  refuseIf (same = false) (conflict message)
  let previous ← predecessorLineages E t d
  verifyQualifiedLineage E t l previous.1 (some bundles)
  return (.unchanged, reply)

/-- The barrier of a phase write : the seal and the latest block allow it, and the
transition is the unresolved one. -/
def requirePhaseWrite (t : E.Db) (l : IntegrityLineageV1) (d : Digest) (message : String) :
    Except StoreError Unit := do
  requireGovernedPhaseWrite E t l
  let unresolved ← unresolvedIntegrityDigest t
  refuseIf (unresolved ≠ some d) ⟨.pendingTransition, message⟩

/-- The first write of `retain_integrity_anchor_statement`. -/
def writeAnchor (cap : ℕ) (t : E.Db) (l : IntegrityLineageV1) (a : AnchorStatementRecordV1)
    (bundles : E.Bundles) : Except StoreError E.Db := do
  let rejected (m : String) := conflict ("SQLite rejected anchor statement retention: " ++ m)
  requirePhaseWrite E t l a.eventDigest
    "anchor statement must extend the singleton pending transition"
  let previous ← previousIntegrityLineages E t l.pending.missionId
  (validateAnchorStatement E.integrity l.pending a previous.2).mapError
    (validationFailed "anchor statement")
  let x ← (IntegrityLineageV1.construct E.integrity l.pending (some a) none none).mapError uncaught
  verifyQualifiedLineage E t x previous.1 (some bundles)
  let t ← (insertAnchor E t ⟨a.eventDigest, E.integrity.anchorRecordId a, a.anchorStatementId,
    a⟩).mapError rejected
  let t ← retainIntegrityEvidence E rejected cap t a.eventDigest .anchorStatement
    a.providerEvidence
  let retained ← loadIntegrityLineage E t a.eventDigest
  refuseIf (retained.bind (·.anchorStatement) ≠ some a)
    (corruption "retained anchor statement did not replay exactly")
  (commit E t).mapError rejected

/-- `retain_integrity_anchor_statement`. -/
def retainIntegrityAnchorStatement (cap : ℕ) (t : E.Db) (a : AnchorStatementRecordV1)
    (bundles : E.Bundles) : Except StoreError (Commit E × AnchorStatementRecordV1) := do
  let l ← orRefuse (← loadIntegrityLineage E t a.eventDigest)
    (corruption "anchor statement omitted its pending transition")
  match l.anchorStatement with
  | some x =>
    resubmitPhase E t l a.eventDigest (x = a)
      "anchor statement identity was reused with different bytes" bundles x
  | none => do
    let t' ← writeAnchor E cap t l a bundles
    return (.wrote t' true, a)

/-- The enrolled authority, the last component of `_store_profile_locked`. -/
def StoreProfile.authorityBinding : StoreProfile → Option ModeledIntegrityAuthorityBindingV1
  | .legacy => none
  | .modeled p => some p.authorityBinding

/-- The first write of `retain_integrity_checkpoint_candidate`. -/
def writeCandidate (cap : ℕ) (t : E.Db) (l : IntegrityLineageV1) (a : AnchorStatementRecordV1)
    (c : CheckpointCandidateRecordV1) (bundles : E.Bundles) : Except StoreError E.Db := do
  let rejected (m : String) := conflict ("SQLite rejected checkpoint candidate retention: " ++ m)
  requirePhaseWrite E t l c.eventDigest
    "checkpoint candidate must extend the singleton pending transition"
  let e ← eventForIntegrityDigest E t c.eventDigest
  refuseIf (¬∃ b ∈ t.profile.authorityBinding.toList,
      matchesAuthorityBinding E l.pending (some c) b)
    (storeError "checkpoint candidate differs from the enrolled authority binding")
  let previous ← previousIntegrityLineages E t l.pending.missionId
  let _ ← (validateCheckpointCandidate E.integrity e l.pending a c previous.1
    previous.2).mapError (validationFailed "checkpoint candidate")
  let x ← (IntegrityLineageV1.construct E.integrity l.pending l.anchorStatement (some c)
    none).mapError uncaught
  verifyQualifiedLineage E t x previous.1 (some bundles)
  let t ← (insertCandidate E t ⟨c.eventDigest, E.integrity.candidateRecordId c,
    c.checkpoint.checkpointId, E.integrity.checkpointAttestationId c.signedCheckpoint,
    c⟩).mapError rejected
  let t ← retainIntegrityEvidence E rejected cap t c.eventDigest .checkpointCandidate
    c.providerEvidence
  let retained ← loadIntegrityLineage E t c.eventDigest
  refuseIf (retained.bind (·.checkpointCandidate) ≠ some c)
    (corruption "retained checkpoint candidate did not replay exactly")
  (commit E t).mapError rejected

/-- `retain_integrity_checkpoint_candidate`. -/
def retainIntegrityCheckpointCandidate (cap : ℕ) (t : E.Db) (c : CheckpointCandidateRecordV1)
    (bundles : E.Bundles) : Except StoreError (Commit E × CheckpointCandidateRecordV1) := do
  refuseIf (c.acceptanceMode ≠ acceptanceMode t)
    (storeError ("checkpoint candidate acceptance mode differs from the enrolled " ++
      "acceptance profile"))
  let message := "checkpoint candidate requires its retained anchor statement"
  let l ← orRefuse (← loadIntegrityLineage E t c.eventDigest) (storeError message)
  let a ← orRefuse l.anchorStatement (storeError message)
  match l.checkpointCandidate with
  | some x =>
    resubmitPhase E t l c.eventDigest (x = c)
      "checkpoint candidate identity was reused with different bytes" bundles x
  | none => do
    let t' ← writeCandidate E cap t l a c bundles
    return (.wrote t' true, c)

/-- The first write of `finalize_integrity_transition`. -/
def writeFinalization (cap : ℕ) (t : E.Db) (l : IntegrityLineageV1)
    (f : FinalizedIntegrityTransitionV1) (bundles : E.Bundles) : Except StoreError E.Db := do
  let rejected (m : String) := conflict ("SQLite rejected integrity finalization: " ++ m)
  requirePhaseWrite E t l f.eventDigest "finalization must close the singleton pending transition"
  let e ← eventForIntegrityDigest E t f.eventDigest
  let previous ← previousIntegrityLineages E t l.pending.missionId
  let _ ← (validateFinalization E.integrity e l f previous.1 previous.2).mapError
    (validationFailed "integrity finalization")
  let x ← (IntegrityLineageV1.construct E.integrity l.pending l.anchorStatement
    l.checkpointCandidate (some f)).mapError uncaught
  verifyQualifiedLineage E t x previous.1 (some bundles)
  let t ← (insertFinalization E t ⟨f.eventDigest, E.integrity.finalizationRecordId f, f⟩).mapError
    rejected
  let t ← retainIntegrityEvidence E rejected cap t f.eventDigest .finalization f.providerEvidence
  let message := "retained integrity finalization did not replay exactly"
  let retained ← orRefuse (← loadIntegrityLineage E t f.eventDigest) (corruption message)
  refuseIf (retained.finalization ≠ some f) (corruption message)
  let _ ← (validateFinalizedIntegrityTransition E.integrity retained e previous.1
    previous.2).mapError fun x =>
      corruption ("retained integrity finalization failed authenticated replay (" ++
        x.reasonCode ++ "): " ++ x.message)
  (commit E t).mapError rejected

/-- `finalize_integrity_transition`. -/
def finalizeIntegrityTransition (cap : ℕ) (t : E.Db) (f : FinalizedIntegrityTransitionV1)
    (bundles : E.Bundles) : Except StoreError (Commit E × FinalizedIntegrityTransitionV1) := do
  refuseIf (f.acceptanceMode ≠ acceptanceMode t)
    (storeError "finalization acceptance mode differs from the enrolled acceptance profile")
  let _ ← unresolvedIntegrityDigest t
  let message := "integrity finalization requires one retained checkpoint candidate"
  let l ← orRefuse (← loadIntegrityLineage E t f.eventDigest) (storeError message)
  refuseIf (l.checkpointCandidate = none) (storeError message)
  match l.finalization with
  | some x =>
    resubmitPhase E t l f.eventDigest (x = f)
      "finalization identity was reused with different bytes" bundles x
  | none => do
    let t' ← writeFinalization E cap t l f bundles
    return (.wrote t' true, f)

/-! ## Blocked finality -/

/-- `enroll_blocked_finality_recovery`. -/
def enrollBlockedFinalityRecovery (cap : ℕ) (t : E.Db) (p : BlockedFinalityRecoveryProfileV1) :
    Except StoreError (Commit E × Digest) := do
  let row : RecoveryProfileRow := ⟨E.recovery.profileId p, p⟩
  refuseIf (¬recoveryProfileMatchesStore E t p)
    (storeError "recovery profile differs from the enrolled integrity authority")
  match t.recoveryProfile with
  | some r => do
    refuseIf (r ≠ row) (conflict "a different recovery profile is already enrolled")
    return (.unchanged, row.recoveryProfileId)
  | none => do
    refuseIf (cap < logicalEvidenceStorageUsed E t + digestTextBytes + E.recovery.profileBytes p)
      ⟨.vaultCapacity, "recovery enrollment exceeds logical database capacity"⟩
    let rejected (m : String) : StoreError := ⟨.operational, "recovery enrollment: " ++ m⟩
    let t' ← (insertRecoveryProfile E t row).mapError rejected
    let t' ← (commit E t').mapError rejected
    return (.wrote t' false, row.recoveryProfileId)

/-- The observation of an event's attempt. -/
def Tables.attempt {V Q : Type} (t : Tables V Q) (d : Digest) (ordinal : ℕ) :
    Option ObservationRow :=
  findBy (fun o => (o.eventDigest, o.attemptOrdinal)) (d, ordinal) t.observations

/-- `retain_blocked_finality_observation`. -/
def retainBlockedFinalityObservation (cap : ℕ) (t : E.Db) (o : BlockedFinalityObservationV1) :
    Except StoreError (Commit E × BlockedFinalityObservationV1) := do
  let profile ← requireEnrolledRecoveryProfile E t
  match t.attempt o.eventDigest o.attemptOrdinal with
  | some r => do
    refuseIf (r.observationId ≠ o.observationId ∨ r.record ≠ o)
      (conflict "one blocked attempt ordinal was reused with different bytes")
    return (.unchanged, o)
  | none => do
    let l ← orRefuse (← loadIntegrityLineage E t o.eventDigest)
      (conflict "exact observation and lineage records are required")
    (validateBlockedObservationLineageV1 E.integrity E.recovery profile o l true).mapError
      fun x => conflict x.message
    refuseIf (∃ r ∈ t.observations, r.eventDigest = o.eventDigest ∧
        o.attemptOrdinal ≤ r.attemptOrdinal)
      (conflict "a blocked attempt ordinal cannot regress")
    refuseIf (cap < logicalEvidenceStorageUsed E t + E.recovery.observationBytes o)
      ⟨.vaultCapacity, "the blocked observation exceeds logical database capacity"⟩
    let rejected (m : String) : StoreError := ⟨.operational, "blocked observation: " ++ m⟩
    let t' ← (insertObservation E t ⟨o.eventDigest, o.attemptOrdinal, o.observationId,
      o.unresolvedPhase, o⟩).mapError rejected
    let t' ← (commit E t').mapError rejected
    return (.wrote t' false, o)

/-- `retain_governed_recovery_decision`. -/
def retainGovernedRecoveryDecision (cap : ℕ) (t : E.Db)
    (signed : SignedGovernedRecoveryDecisionV1) : Except StoreError (Commit E × Digest) := do
  let profile ← requireEnrolledRecoveryProfile E t
  let d ← (authenticateRecoveryDecisionV1 E.recovery profile signed).mapError uncaughtRecovery
  match findBy DecisionRow.decisionId d.decisionId t.decisions with
  | some r => do
    refuseIf (r.record ≠ signed)
      (conflict "one recovery decision identity was reused with different bytes")
    return (.unchanged, d.decisionId)
  | none => do
    let observations ← blockedObservations E t d.eventDigest
    let message := "recovery requires an unresolved retained transition"
    let l ← orRefuse (← loadIntegrityLineage E t d.eventDigest) (conflict message)
    refuseIf (l.finalization ≠ none) (conflict message)
    let _ ← (resolveBlockedFinalityV1 E.recovery profile observations l.phase
      (l.phaseRecordId E.integrity) signed).mapError fun x => conflict x.message
    refuseIf (cap < logicalEvidenceStorageUsed E t + E.recovery.decisionBytes signed)
      ⟨.vaultCapacity, "the recovery decision exceeds logical database capacity"⟩
    let rejected (m : String) : StoreError := ⟨.operational, "recovery decision: " ++ m⟩
    let t' ← (insertDecision E t ⟨d.decisionId, d.eventDigest, d.blockedObservationId,
      d.disposition, signed⟩).mapError rejected
    let t' ← (commit E t').mapError rejected
    return (.wrote t' false, d.decisionId)

/-! ## Enrollments and checkpoints -/

/-- `enroll_modeled_integrity`. -/
def enrollModeledIntegrity (cap : ℕ) (t : E.Db) (p : ModeledProfile) :
    Except StoreError (Commit E × Unit) :=
  if t.profile = .modeled p then do
    requireIntegrityEnrollmentCapacity E cap t 0
    return (.unchanged, ())
  else do
    let rejected (m : String) := storeError ("SQLite rejected modeled integrity enrollment: " ++ m)
    refuseIf (t.profile ≠ .legacy)
      (storeError "modeled integrity enrollment conflicts with the retained profile")
    refuseIf (t.events ≠ [] ∨ t.signedCheckpoints ≠ [] ∨ E.vaultIsEmpty t.vault = false)
      (storeError "nonempty legacy history cannot be promoted to pre-transition integrity")
    requireIntegrityEnrollmentCapacity E cap t (E.modeledProfileBytes p)
    let t' ← (updateStoreProfile E t p).mapError rejected
    requireIntegrityEnrollmentCapacity E cap t' 0
    let t' ← (commit E t').mapError rejected
    return (.wrote t' true, ())

/-- `enroll_qualified_acceptance`. -/
def enrollQualifiedAcceptance (cap : ℕ) (t : E.Db) (q : E.Qualified) :
    Except StoreError (Commit E × AcceptanceMode) :=
  match t.acceptanceProfile with
  | some r => do
    refuseIf (r ≠ q) (conflict "a different qualified acceptance profile is already enrolled")
    return (.unchanged, .qualifiedSigned)
  | none => do
    refuseIf (¬qualifiedAligned E t q) (storeError
      "qualified profiles differ from the enrolled kernel scope or validation policy")
    refuseIf (cap < logicalEvidenceStorageUsed E t + E.qualifiedBytes q)
      ⟨.vaultCapacity, "qualified acceptance enrollment exceeds logical database capacity"⟩
    let rejected (m : String) : StoreError :=
      ⟨.operational, "qualified acceptance enrollment: " ++ m⟩
    let t' ← (insertAcceptanceProfile E t q).mapError rejected
    let t' ← (commit E t').mapError rejected
    return (.wrote t' false, .qualifiedSigned)

/-- `store_checkpoint`. -/
def storeCheckpoint (t : E.Db) (c : SignedCheckpoint) :
    Except StoreError (Commit E × SignedCheckpoint) := do
  let rejected (m : String) := storeError ("SQLite rejected checkpoint: " ++ m)
  refuseIf (t.profile ≠ .legacy) ⟨.finalityRequired,
    "opaque legacy checkpoints are forbidden in the modeled integrity profile"⟩
  let _ ← verifiedStream E t c.missionId
  refuseIf (¬∃ r ∈ t.events, r.missionId = c.missionId ∧ r.digest = c.eventDigest)
    (storeError "checkpoint must reference a retained mission event")
  let t' ← (insertSignedCheckpoint E t c).mapError rejected
  let t' ← (commit E t').mapError rejected
  return (.wrote t' true, c)

/-! ## Reads -/

/-- `load`. -/
def load (t : E.Db) (m : Digest) : Except StoreError (List EventV1) := do
  let unresolved ← unresolvedIntegrityDigest t
  refuseIf (unresolved ≠ none) ⟨.pendingTransition,
    "generic mission replay is unavailable while an integrity transition is pending"⟩
  verifiedStream E t m

/-- `load_integrity_event`. -/
def loadIntegrityEvent (t : E.Db) (d : Digest) : Except StoreError (Option EventV1) := do
  refuseIf (t.profile = .legacy) ⟨.finalityRequired,
    "exact integrity event reads require modeled profile enrollment"⟩
  if ∃ p ∈ t.pending, p.eventDigest = d then return some (← eventForIntegrityDigest E t d)
  else return none

/-- `load_latest_finalized_integrity_lineages`. -/
def loadLatestFinalizedIntegrityLineages (t : E.Db) (m : Digest) :
    Except StoreError (Option IntegrityLineageV1 × Option IntegrityLineageV1) := do
  refuseIf (t.profile = .legacy)
    ⟨.finalityRequired, "integrity lineage reads require modeled profile enrollment"⟩
  previousIntegrityLineages E t m

/-- `load_unresolved_integrity_transition`. -/
def loadUnresolvedIntegrityTransition (t : E.Db) :
    Except StoreError (Option IntegrityLineageV1) := do
  match ← unresolvedIntegrityDigest t with
  | none => return none
  | some d => do
    let message := "unresolved integrity transition cannot be reconstructed"
    let l ← orRefuse (← loadIntegrityLineage E t d) (corruption message)
    refuseIf (l.finalization ≠ none) (corruption message)
    return some l

end Etzio
