import Etzio.StoreTables

/-!
# Reading and replaying the store

The reads of `SQLiteEventStore` under one transaction. `loadIntegrityLineage`
reconstructs a transition from its rows and provider evidence.
`previousIntegrityLineages` finds the latest finalized predecessors by descending
queries and `predecessorLineages` those of a given event by index arithmetic.
`validateIntegrityStateUncached` is the full authenticated replay : the structure of
the tables, every lineage against its running predecessors in instance order, and the
blocked-finality history.

The dictionaries `observations`, `latest` and `dispositions` of the source are read
here as lookups in the rows they were built from.
-/

open CheckedRun Rows

namespace Etzio

variable (E : Env)

/-! ## Lineages -/

/-- The retained evidence of a phase, joined with its artifacts, in slot order. -/
def retainedEvidence {V Q : Type} (t : Tables V Q) (d : Digest) (phase : EvidencePhase) :
    List (EvidenceKind × String × Digest × ℕ × List UInt8) :=
  (orderBy MappingRow.slot (t.mappings.filter fun m => m.eventDigest = d ∧ m.phase = phase)
    ).filterMap fun m => (findBy ArtifactRow.evidenceId m.evidenceId t.artifacts).map fun a =>
      (m.evidenceKind, m.sourceId, m.evidenceId, a.byteSize, a.content)

/-- The evidence rows a record's blobs require. -/
def expectedEvidence (blobs : List ProviderEvidenceBlobV1) :
    List (EvidenceKind × String × Digest × ℕ × List UInt8) :=
  blobs.map fun b => (b.evidenceKind, b.sourceId, b.evidenceId, b.content.length, b.content)

/-- `_verify_integrity_evidence_locked`. -/
def verifyIntegrityEvidence {V Q : Type} (t : Tables V Q) (d : Digest) (phase : EvidencePhase)
    (blobs : List ProviderEvidenceBlobV1) : Except StoreError Unit :=
  refuseIf (retainedEvidence t d phase ≠ expectedEvidence blobs)
    (corruption "retained provider evidence differs from its canonical record")

/-- The record of a phase : its row must agree with the record and its evidence must be
retained. `row` is the record with whether its columns agree. -/
def loadPhase {V Q ρ : Type} (t : Tables V Q) (d : Digest) (phase : EvidencePhase)
    (mismatch : String) (row : Option (ρ × Bool)) (evidence : ρ → List ProviderEvidenceBlobV1) :
    Except StoreError (Option ρ) :=
  match row with
  | none => .ok none
  | some (record, agrees) => do
    refuseIf (agrees = false) (corruption mismatch)
    verifyIntegrityEvidence t d phase (evidence record)
    return some record

/-- The anchor statement of an event with whether its row agrees with it. -/
def anchorRow (t : E.Db) (d : Digest) : Option (AnchorStatementRecordV1 × Bool) :=
  (findBy AnchorRow.eventDigest d t.anchors).map fun r =>
    (r.record, r.record.eventDigest = d ∧ E.integrity.anchorRecordId r.record = r.recordId ∧
      r.record.anchorStatementId = r.anchorStatementId)

/-- The checkpoint candidate of an event with whether its row agrees with it. -/
def candidateRow (t : E.Db) (d : Digest) : Option (CheckpointCandidateRecordV1 × Bool) :=
  (findBy CandidateRow.eventDigest d t.candidates).map fun r =>
    (r.record, r.record.eventDigest = d ∧ E.integrity.candidateRecordId r.record = r.recordId ∧
      r.record.checkpoint.checkpointId = r.checkpointId ∧
      E.integrity.checkpointAttestationId r.record.signedCheckpoint = r.checkpointAttestationId)

/-- The finalization of an event with whether its row agrees with it. -/
def finalizationRow (t : E.Db) (d : Digest) : Option (FinalizedIntegrityTransitionV1 × Bool) :=
  (findBy FinalizationRow.eventDigest d t.finalizations).map fun r =>
    (r.record, r.record.eventDigest = d ∧
      E.integrity.finalizationRecordId r.record = r.recordId)

/-- The columns of a pending row are those of its record. -/
def PendingRow.Agrees (I : IntegrityPrimitives) (r : PendingRow) : Prop :=
  r.record.eventDigest = r.eventDigest ∧ r.record.missionId = r.missionId ∧
    r.record.eventSeq = r.eventSeq ∧ r.record.instanceSequence = r.instanceSequence ∧
    I.pendingRecordId r.record = r.recordId

instance (I : IntegrityPrimitives) (r : PendingRow) : Decidable (r.Agrees I) :=
  inferInstanceAs (Decidable (_ ∧ _))

/-- `_load_integrity_lineage_locked`. -/
def loadIntegrityLineage (t : E.Db) (d : Digest) :
    Except StoreError (Option IntegrityLineageV1) :=
  match findBy PendingRow.eventDigest d t.pending with
  | none => .ok none
  | some r => do
    refuseIf (¬r.Agrees E.integrity)
      (corruption "pending integrity row differs from its canonical record")
    refuseIf ((findBy EventRow.digest d t.events).map (fun e => (e.missionId, e.seq)) ≠
        some (r.record.missionId, r.record.eventSeq))
      (corruption "pending integrity record differs from its retained event")
    verifyIntegrityEvidence t d .pending r.record.providerEvidence
    let anchor ← loadPhase t d .anchorStatement
      "anchor statement row differs from its canonical record" (anchorRow E t d)
      AnchorStatementRecordV1.providerEvidence
    let candidate ← loadPhase t d .checkpointCandidate
      "checkpoint candidate row differs from its canonical record" (candidateRow E t d)
      CheckpointCandidateRecordV1.providerEvidence
    let finalization ← loadPhase t d .finalization
      "integrity finalization row differs from its canonical record" (finalizationRow E t d)
      FinalizedIntegrityTransitionV1.providerEvidence
    let l ← (IntegrityLineageV1.construct E.integrity r.record anchor candidate
      finalization).mapError fun x =>
        corruption ("retained integrity lineage is invalid: " ++ x.message)
    return some l

/-- A retained event decodes : its constructor's checks hold. -/
def decodeEvent (e : EventV1) (context : String) : Except StoreError Unit :=
  (e.verify E.events).mapError fun m => corruption (context ++ m)

/-- `_event_for_integrity_digest_locked`. -/
def eventForIntegrityDigest (t : E.Db) (d : Digest) : Except StoreError EventV1 := do
  let r ← orRefuse (findBy EventRow.digest d t.events)
    (corruption "integrity transition does not reference one retained event")
  decodeEvent E r.canonical "integrity event bytes are invalid: "
  refuseIf (r.canonical.eventDigest ≠ d)
    (corruption "integrity event identity differs from its canonical bytes")
  return r.canonical

/-- `_unresolved_integrity_digest_locked`. -/
def unresolvedIntegrityDigest {V Q : Type} (t : Tables V Q) : Except StoreError (Option Digest) :=
  match t.unresolved with
  | [] => .ok none
  | [p] => .ok (some p.eventDigest)
  | _ => .error (corruption "multiple instance-global integrity transitions are unresolved")

/-! ## Predecessors -/

/-- The pending rows joined with the finalizations. -/
def Tables.finalizedRows {V Q : Type} (t : Tables V Q) : List PendingRow :=
  t.pending.filter fun p => t.IsFinalized p.eventDigest

/-- The lineage of an optional row, which must be finalized. -/
def loadFinalized (t : E.Db) (row : Option PendingRow) (message : String) :
    Except StoreError (Option IntegrityLineageV1) :=
  match row with
  | none => .ok none
  | some r => do
    let l ← loadIntegrityLineage E t r.eventDigest
    refuseIf (∃ x ∈ l, x.finalization = none) (corruption message)
    return l

/-- `_previous_integrity_lineages_locked` : the latest finalized transition by instance
sequence, and the one of the mission by event sequence. -/
def previousIntegrityLineages (t : E.Db) (m : Digest) :
    Except StoreError (Option IntegrityLineageV1 × Option IntegrityLineageV1) := do
  let message := "finalized integrity predecessor omitted its finalization record"
  let global ← loadFinalized E t (topBy PendingRow.instanceSequence t.finalizedRows) message
  let mission ← loadFinalized E t
    (topBy PendingRow.eventSeq (t.finalizedRows.filter fun p => p.missionId = m)) message
  return (global, mission)

/-- The body of `load_integrity_predecessor_lineages`. -/
def predecessorLineages (t : E.Db) (d : Digest) :
    Except StoreError (Option IntegrityLineageV1 × Option IntegrityLineageV1) := do
  refuseIf (t.profile = .legacy)
    ⟨.finalityRequired, "integrity predecessor reads require modeled profile enrollment"⟩
  let r ← orRefuse (findBy PendingRow.eventDigest d t.pending)
    ⟨.eventStore, "integrity predecessor read requires a retained event digest"⟩
  let global := t.finalizedRows.find? fun p =>
    (p.instanceSequence : ℤ) = (r.instanceSequence : ℤ) - 1
  let mission := t.finalizedRows.find? fun p =>
    p.missionId = r.missionId ∧ (p.eventSeq : ℤ) = (r.eventSeq : ℤ) - 1
  refuseIf (¬(r.instanceSequence = 0 ↔ global = none) ∨ ¬(r.eventSeq = 0 ↔ mission = none))
    (corruption "integrity event omitted an exact finalized predecessor")
  let message := "integrity predecessor omitted its finalization"
  return (← loadFinalized E t global message, ← loadFinalized E t mission message)

/-! ## Profiles -/

/-- A record was signed under the enrolled trust store by the enrolled key and principal. -/
def signedUnderBinding (b : ModeledIntegrityAuthorityBindingV1) (trust : IntegrityTrustStore)
    (keyId enrolledKeyId : KeyId) (principalId : String) : Prop :=
  E.integrity.trustSnapshotId trust = b.trustSnapshotId ∧ trust = b.trustStore ∧
    keyId = enrolledKeyId ∧
    (trust.key enrolledKeyId).map TrustedIntegrityKey.principalId = some principalId

instance (b : ModeledIntegrityAuthorityBindingV1) (trust : IntegrityTrustStore)
    (keyId enrolledKeyId : KeyId) (principalId : String) :
    Decidable (signedUnderBinding E b trust keyId enrolledKeyId principalId) :=
  inferInstanceAs (Decidable (_ ∧ _))

/-- `_integrity_lineage_matches_authority_binding`. -/
def matchesAuthorityBinding (p : PendingIntegrityTransitionV1)
    (candidate : Option CheckpointCandidateRecordV1) (b : ModeledIntegrityAuthorityBindingV1) :
    Prop :=
  signedUnderBinding E b p.decisionTrustStore p.signedDecision.keyId b.decisionKeyId
      b.decisionPrincipalId ∧
    ∀ c ∈ candidate.toList, signedUnderBinding E b c.checkpointTrustStore
      c.signedCheckpoint.keyId b.checkpointKeyId b.checkpointPrincipalId

instance (p : PendingIntegrityTransitionV1) (c : Option CheckpointCandidateRecordV1)
    (b : ModeledIntegrityAuthorityBindingV1) : Decidable (matchesAuthorityBinding E p c b) :=
  inferInstanceAs (Decidable (_ ∧ _))

/-- The qualified profiles agree with the enrolled scope and policy. -/
def qualifiedAligned (t : E.Db) (q : E.Qualified) : Prop :=
  match t.profile with
  | .legacy => False
  | .modeled p => ∀ s ∈ E.qualifiedScopes q,
      s = (p.serviceInstanceId, p.environmentId, p.validationPolicy)

instance (t : E.Db) (q : E.Qualified) : Decidable (qualifiedAligned E t q) := by
  unfold qualifiedAligned
  split <;> infer_instance

/-- `_qualified_acceptance_profiles_locked`. -/
def qualifiedAcceptanceProfiles (t : E.Db) : Except StoreError (Option E.Qualified) := do
  refuseIf (∃ q ∈ t.acceptanceProfile, ¬qualifiedAligned E t q)
    (corruption ("invalid qualified acceptance profile: qualified profiles differ from the " ++
      "enrolled kernel scope or validation policy"))
  return t.acceptanceProfile

/-- The enrolled acceptance mode, the query of `resolve_acceptance_mode`. -/
def acceptanceMode {V Q : Type} (t : Tables V Q) : AcceptanceMode :=
  if t.acceptanceProfile.isSome then .qualifiedSigned else .modeledUnsigned

/-- The acceptance modes of the records a lineage has. -/
def IntegrityLineageV1.modes (l : IntegrityLineageV1) : List AcceptanceMode :=
  l.pending.acceptanceMode :: (l.anchorStatement.map (·.acceptanceMode)).toList ++
    (l.checkpointCandidate.map (·.acceptanceMode)).toList ++
    (l.finalization.map (·.acceptanceMode)).toList

/-- `_verify_qualified_lineage_locked`, with the bundles of a submitted record if there
is one. -/
def verifyQualifiedLineage (t : E.Db) (l : IntegrityLineageV1)
    (previousGlobal : Option IntegrityLineageV1) (submitted : Option E.Bundles) :
    Except StoreError Unit := do
  let profiles ← qualifiedAcceptanceProfiles E t
  refuseIf (∃ m ∈ l.modes, m ≠ acceptanceMode t)
    ⟨.eventStore,
      "integrity phase acceptance mode differs from the enrolled acceptance profile"⟩
  match profiles with
  | none => .ok ()
  | some q =>
    let wrap (x : IntegrityError) : StoreError := ⟨.eventStore,
      "qualified lifecycle evidence failed reauthentication (" ++ x.reasonCode ++ "): " ++
        x.message⟩
    let r ← (E.reconstructQualifiedLineage q l previousGlobal).mapError wrap
    match submitted with
    | none => .ok ()
    | some b => (E.validateQualifiedTransients q r b).mapError wrap

/-! ## Blocked finality -/

/-- `_recovery_profile_matches_store_locked`. -/
def recoveryProfileMatchesStore (t : E.Db) (p : BlockedFinalityRecoveryProfileV1) : Prop :=
  match t.profile with
  | .legacy => False
  | .modeled m => p.serviceInstanceId = m.serviceInstanceId ∧
      p.environmentId = m.environmentId ∧
      p.authorityBindingId = E.integrity.authorityBindingId m.authorityBinding

instance (t : E.Db) (p : BlockedFinalityRecoveryProfileV1) :
    Decidable (recoveryProfileMatchesStore E t p) := by
  unfold recoveryProfileMatchesStore
  split <;> infer_instance

/-- `_require_enrolled_recovery_profile_locked`. -/
def requireEnrolledRecoveryProfile (t : E.Db) :
    Except StoreError BlockedFinalityRecoveryProfileV1 := do
  let r ← orRefuse t.recoveryProfile
    ⟨.eventStore, "no governed recovery profile is enrolled"⟩
  refuseIf (E.recovery.profileId r.profile ≠ r.recoveryProfileId ∨
      ¬recoveryProfileMatchesStore E t r.profile)
    (corruption
      "the retained recovery profile differs from its identity or enrolled authority")
  return r.profile

/-- One retained observation against its row and its lineage. -/
def checkObservationRow (profile : BlockedFinalityRecoveryProfileV1) (l : IntegrityLineageV1)
    (d : Digest) (r : ObservationRow) : Except StoreError Unit := do
  refuseIf ((r.record.eventDigest, r.record.attemptOrdinal, r.record.observationId,
      r.record.unresolvedPhase) ≠ (d, r.attemptOrdinal, r.observationId, r.unresolvedPhase))
    (corruption "blocked observation index differs from retained bytes")
  (validateBlockedObservationLineageV1 E.integrity E.recovery profile r.record l false).mapError
    fun x => corruption ("invalid retained blocked observation: " ++ x.message)

/-- `_blocked_observations_locked`. -/
def blockedObservations (t : E.Db) (d : Digest) :
    Except StoreError (List BlockedFinalityObservationV1) :=
  if t.observationRows d = [] then .ok []
  else do
    let profile ← requireEnrolledRecoveryProfile E t
    let l ← orRefuse (← loadIntegrityLineage E t d)
      (corruption ("invalid retained blocked observation: " ++
        "exact observation and lineage records are required"))
    (t.observationRows d).forM (checkObservationRow E profile l d)
    return (t.observationRows d).map ObservationRow.record

/-- The latest observation row of an event. -/
def Tables.latestObservation {V Q : Type} (t : Tables V Q) (d : Digest) : Option ObservationRow :=
  (t.observationRows d).getLast?

/-- One retained decision : it resolves its observation, and a seal fences the
unresolved transition. -/
def checkDecisionRow (t : E.Db) (profile : BlockedFinalityRecoveryProfileV1) (r : DecisionRow) :
    Except StoreError Unit := do
  let o ← orRefuse (findBy ObservationRow.observationId r.blockedObservationId t.observations)
    (corruption "a recovery decision has no retained observation")
  let d ← (resolveBlockedFinalityV1 E.recovery profile [o.record]
    o.record.unresolvedPhase.lineagePhase o.record.unresolvedPhaseRecordId r.record).mapError
      fun x => corruption ("invalid retained recovery decision: " ++ x.message)
  refuseIf ((d.decisionId, d.eventDigest, d.blockedObservationId, d.disposition) ≠
      (r.decisionId, r.eventDigest, r.blockedObservationId, r.disposition))
    (corruption "recovery decision index differs from authenticated bytes")
  if r.disposition = .instanceSealed then do
    let l ← orRefuse (← loadIntegrityLineage E t r.eventDigest)
      (corruption "retained seal does not fence the unresolved transition")
    let unresolved ← unresolvedIntegrityDigest t
    refuseIf ((t.latestObservation r.eventDigest).map ObservationRow.observationId ≠
        some r.blockedObservationId ∨ l.finalization ≠ none ∨ unresolved ≠ some r.eventDigest)
      (corruption "retained seal does not fence the unresolved transition")
  else .ok ()

/-- The disposition of the decision that answers an observation. -/
def Tables.dispositionOf {V Q : Type} (t : Tables V Q) (observationId : Digest) :
    Option Disposition :=
  (findBy DecisionRow.blockedObservationId observationId t.decisions).map DecisionRow.disposition

/-- The phase of a blocked transition is the one its latest observation names, unless a
retry was authorized. -/
def checkLatestObservation (t : E.Db) (d : Digest) : Except StoreError Unit := do
  let message := "retained phase advanced past an unauthorized blocked observation"
  let l ← orRefuse (← loadIntegrityLineage E t d) (corruption message)
  let o ← orRefuse (t.latestObservation d) (corruption message)
  refuseIf (l.phase ≠ o.record.unresolvedPhase.lineagePhase ∧
      t.dispositionOf o.observationId ≠ some .retryAuthorized)
    (corruption message)

/-- The distinct events with observations. -/
def Tables.blockedEvents {V Q : Type} (t : Tables V Q) : List Digest :=
  (t.observations.map ObservationRow.eventDigest).dedup

/-- `_validate_blocked_finality_state_locked`. -/
def validateBlockedFinalityState (t : E.Db) : Except StoreError Unit :=
  match t.recoveryProfile with
  | none =>
    refuseIf (t.observations ≠ [] ∨ t.decisions ≠ [])
      (corruption "blocked history has no enrolled recovery profile")
  | some _ => do
    let profile ← requireEnrolledRecoveryProfile E t
    t.blockedEvents.forM fun d => do let _ ← blockedObservations E t d
    t.decisions.forM (checkDecisionRow E t profile)
    t.blockedEvents.forM (checkLatestObservation E t)

/-! ## The full replay -/

/-- The finalized lineages the replay has passed : the last one, and the last one of
each mission. -/
structure Predecessors where
  global : Option IntegrityLineageV1
  byMission : Dict IntegrityLineageV1

/-- A refusal of a retained lineage. -/
def replayRefusal (x : IntegrityError) : StoreError :=
  corruption ("retained integrity lineage failed authenticated replay (" ++ x.reasonCode ++
    "): " ++ x.message)

/-- What the replay makes of an error of the store about a retained lineage. -/
def replayFailure (x : StoreError) : StoreError :=
  if x.kind = .corruption then x
  else corruption ("retained integrity lineage failed authenticated replay " ++
    "(invalid_retained_integrity_lineage): " ++ x.message)

/-- The replay of a retained anchor statement. -/
def replayAnchor (l : IntegrityLineageV1) (previousMission : Option IntegrityLineageV1) :
    Except StoreError Unit :=
  match l.anchorStatement with
  | none => .ok ()
  | some a =>
    (validateAnchorStatement E.integrity l.pending a previousMission).mapError replayRefusal

/-- The replay of a retained checkpoint candidate. -/
def replayCandidate (e : EventV1) (l : IntegrityLineageV1)
    (previousGlobal previousMission : Option IntegrityLineageV1) : Except StoreError Unit :=
  match l.checkpointCandidate, l.anchorStatement with
  | none, _ => .ok ()
  | some _, none => .error (corruption "checkpoint candidate omitted its anchor statement")
  | some c, some a => do
    let _ ← (validateCheckpointCandidate E.integrity e l.pending a c previousGlobal
      previousMission).mapError replayRefusal

/-- The replay of a retained finalization. -/
def replayFinalization (e : EventV1) (l : IntegrityLineageV1)
    (previousGlobal previousMission : Option IntegrityLineageV1) : Except StoreError Unit :=
  match l.finalization with
  | none => .ok ()
  | some _ => do
    let _ ← (validateFinalizedIntegrityTransition E.integrity l e previousGlobal
      previousMission).mapError replayRefusal

/-- The checks of one retained lineage against its predecessors. -/
def authenticateRetained (t : E.Db) (p : ModeledProfile) (e : EventV1) (l : IntegrityLineageV1)
    (previousGlobal previousMission : Option IntegrityLineageV1) : Except StoreError Unit := do
  refuseIf (¬matchesAuthorityBinding E l.pending l.checkpointCandidate p.authorityBinding)
    (corruption "retained integrity lineage differs from its enrolled authority binding")
  (validatePendingTransition E.integrity e l.pending previousGlobal previousMission
    p.serviceInstanceId p.environmentId p.validationPolicy).mapError replayRefusal
  replayAnchor E l previousMission
  replayCandidate E e l previousGlobal previousMission
  replayFinalization E e l previousGlobal previousMission
  (verifyQualifiedLineage E t l previousGlobal none).mapError replayFailure

/-- One turn of the replay loop. -/
def replayStep (t : E.Db) (p : ModeledProfile) (s : Predecessors) (r : PendingRow) :
    Except StoreError Predecessors := do
  let l ← orRefuse (← loadIntegrityLineage E t r.eventDigest)
    (corruption "integrity transition index names no retained lineage")
  let e ← eventForIntegrityDigest E t r.eventDigest
  authenticateRetained E t p e l s.global (s.byMission.lookup e.missionId)
  return if l.finalization = none then s else ⟨some l, s.byMission.insert e.missionId l⟩

/-- The rows of the replay loop, in instance order. -/
def Tables.instanceOrder {V Q : Type} (t : Tables V Q) : List PendingRow :=
  orderBy PendingRow.instanceSequence t.pending

/-- The replay loop over some rows. -/
def replayRows (t : E.Db) (p : ModeledProfile) (rows : List PendingRow) :
    Except StoreError Predecessors :=
  rows.foldlM (replayStep E t p) ⟨none, ∅⟩

/-- The phase of an event has its record. -/
def Tables.HasPhase {V Q : Type} (t : Tables V Q) : EvidencePhase → Digest → Prop
  | .pending, d => ∃ p ∈ t.pending, p.eventDigest = d
  | .anchorStatement, d => ∃ a ∈ t.anchors, a.eventDigest = d
  | .checkpointCandidate, d => ∃ c ∈ t.candidates, c.eventDigest = d
  | .finalization, d => ∃ f ∈ t.finalizations, f.eventDigest = d

instance {V Q : Type} (t : Tables V Q) (phase : EvidencePhase) (d : Digest) :
    Decidable (t.HasPhase phase d) := by
  cases phase <;> unfold Tables.HasPhase <;> infer_instance

/-- The structural queries of the replay. -/
def checkStructure (t : E.Db) : Except StoreError Unit := do
  refuseIf (t.events.length ≠ t.pending.length)
    (corruption "modeled integrity profile has an event without one pending dossier")
  refuseIf (∃ e ∈ t.events, ¬∃ p ∈ t.pending,
      p.eventDigest = e.digest ∧ p.missionId = e.missionId ∧ p.eventSeq = e.seq)
    (corruption "modeled integrity event metadata differs from its pending dossier")
  refuseIf (∃ p ∈ t.pending, p.instanceSequence ≠
      (t.pending.filter fun q => q.instanceSequence < p.instanceSequence).length)
    (corruption "modeled integrity instance sequence has a gap")
  refuseIf (t.anchors.length > t.pending.length ∨ t.anchors.length < t.finalizations.length ∨
      t.candidates.length < t.finalizations.length ∨ t.anchors.length < t.candidates.length ∨
      ¬(t.pending.length = t.finalizations.length ∨
        t.pending.length = t.finalizations.length + 1))
    (corruption "modeled integrity phase cardinalities are inconsistent")
  refuseIf ((∃ a ∈ t.anchors, ¬∃ p ∈ t.pending, p.eventDigest = a.eventDigest) ∨
      (∃ c ∈ t.candidates, ¬∃ a ∈ t.anchors, a.eventDigest = c.eventDigest) ∨
      ∃ f ∈ t.finalizations, ¬∃ c ∈ t.candidates, c.eventDigest = f.eventDigest)
    (corruption "modeled integrity phase record omitted its exact parent")
  refuseIf (∃ p ∈ t.pending, p.instanceSequence < t.finalizations.length ∧
      ¬t.IsFinalized p.eventDigest)
    (corruption "modeled integrity finalizations are not a global prefix")
  refuseIf (∃ a ∈ t.artifacts, ¬∃ m ∈ t.mappings, m.evidenceId = a.evidenceId)
    (corruption "modeled integrity state retains orphan provider evidence")
  refuseIf (∃ m ∈ t.mappings, ¬t.HasPhase m.phase m.eventDigest)
    (corruption "integrity provider evidence precedes its immutable phase record")
  let _ ← unresolvedIntegrityDigest t

/-- `_validate_integrity_state_uncached_locked`. -/
def validateIntegrityStateUncached (t : E.Db) : Except StoreError Unit := do
  let _ ← qualifiedAcceptanceProfiles E t
  refuseIf (¬t.ForeignKeys E.vaultForeignKeys)
    (corruption "modeled integrity state has a foreign-key violation")
  match t.profile with
  | .legacy =>
    refuseIf (t.pending ≠ [] ∨ t.anchors ≠ [] ∨ t.candidates ≠ [] ∨ t.finalizations ≠ [] ∨
        t.artifacts ≠ [] ∨ t.mappings ≠ [])
      (corruption "legacy store profile contains typed integrity state")
    validateBlockedFinalityState E t
  | .modeled p =>
    checkStructure E t
    let _ ← replayRows E t p t.instanceOrder
    validateBlockedFinalityState E t

end Etzio
