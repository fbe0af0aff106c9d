import Etzio.Interaction
import Etzio.StoreSystem

/-!
# The finalizing facade

`ModeledIntegrityFinalizingEventStoreV1` puts an integrity adapter beside the event
store. An append first recovers the unresolved transition, then has the adapter propose
a pending transition, retains it with the event, and advances it through its phases :
the adapter prepares each record, the facade validates it, the store retains it.

An operation is a program of store transactions, adapter calls and reads of the
qualified-time source. Everything the adapter and the time source do is the reply of a
call : `facadeCalls` lets them reply anything. What may happen between two calls is a
parameter : nothing in a sequential run, any steps of other connections otherwise.
-/

open CheckedRun Interaction

namespace Etzio

variable (E : Env)

/-! ## Exceptions -/

/-- The exceptions of a call, by what the facade tells apart. -/
inductive Raised
  /-- `EventStoreError`. -/
  | store (e : StoreError)
  /-- `IntegrityTransitionError` itself. -/
  | transition (e : IntegrityError)
  | finalityPending (e : IntegrityError)
  | finalityBlocked (e : IntegrityError) (blockedOperation : String)
  | instanceSealed (e : IntegrityError)
  | recoveryNotAuthorized (e : IntegrityError)
  /-- `BlockedFinalityError`. -/
  | blockedContract (e : IntegrityError)
  /-- `TimeoutError`, `ConnectionError` or `RuntimeError`. -/
  | uncertain
  /-- Any other `Exception`. -/
  | other
  /-- A `BaseException` that ends the process. -/
  | terminated
  deriving DecidableEq

/-- The class of what leaves the store. -/
def StoreError.raised (e : StoreError) : Raised :=
  match e.kind with
  | .integrityTransition => .transition ⟨"integrity_lineage_binding_mismatch", e.message⟩
  | .blockedFinality => .blockedContract ⟨"invalid_blocked_observation", e.message⟩
  | _ => .store e

/-- The operation a block is attributed to. -/
def attributedOperation (operation : String) : String :=
  if operation = "prime_catalog" then "recover_lineage" else operation

/-- The reason of a refusal that is no integrity error. -/
def contractFailure : String := "modeled_integrity_adapter_contract_failure"

/-- The handlers of `_call_modeled_integrity_adapter`. -/
def Raised.ofAdapter (operation : String) : Raised → Raised
  | .finalityPending e => .finalityPending e
  | .finalityBlocked e _ => .finalityBlocked e (attributedOperation operation)
  | .transition e | .instanceSealed e | .recoveryNotAuthorized e =>
    .finalityBlocked ⟨e.reasonCode, "modeled integrity adapter " ++ operation ++
      " is deterministically blocked"⟩ (attributedOperation operation)
  | .uncertain => .finalityPending ⟨"modeled_integrity_adapter_response_uncertain",
      "modeled integrity adapter " ++ operation ++ " has an uncertain retryable outcome"⟩
  | .store _ | .blockedContract _ | .other => .finalityBlocked ⟨contractFailure,
      "modeled integrity adapter " ++ operation ++ " violated its local fixture contract"⟩
      (attributedOperation operation)
  | .terminated => .terminated

/-- The handlers of `_classified_advance_finality`. -/
def Raised.classified : Raised → Raised
  | .transition e | .instanceSealed e | .recoveryNotAuthorized e =>
    .finalityBlocked ⟨e.reasonCode, "modeled integrity recovery is blocked: " ++ e.message⟩
      "recover_lineage"
  | .blockedContract _ | .uncertain | .other => .finalityBlocked ⟨contractFailure,
      "modeled integrity recovery encountered a malformed adapter result"⟩ "recover_lineage"
  | x => x

/-- The handlers around the proposal in `_append_and_finalize`. -/
def Raised.proposal : Raised → Raised
  | .finalityPending e => .finalityPending e
  | .finalityBlocked e o => .finalityBlocked e o
  | .transition e | .instanceSealed e | .recoveryNotAuthorized e =>
    .finalityBlocked ⟨e.reasonCode, "modeled integrity proposal is blocked: " ++ e.message⟩
      "recover_lineage"
  | .store _ | .blockedContract _ | .uncertain | .other => .finalityBlocked ⟨contractFailure,
      "modeled integrity proposal encountered a malformed adapter result"⟩ "recover_lineage"
  | .terminated => .terminated

/-! ## Calls -/

/-- The calls of `_ModeledIntegrityServicePort`, by what they return. A record carries the
transient bundles the adapter attached to it. -/
inductive AdapterCall : Type → Type
  | preparePendingTransition (e : EventV1) (previousGlobal previousMission :
      Option IntegrityLineageV1) : AdapterCall (PendingIntegrityTransitionV1 × E.Bundles)
  | prepareAnchorStatement (p : PendingIntegrityTransitionV1) :
      AdapterCall (AnchorStatementRecordV1 × E.Bundles)
  | registerAnchorStatement (a : AnchorStatementRecordV1)
      (p : Option PendingIntegrityTransitionV1) : AdapterCall (List ProviderEvidenceBlobV1)
  | prepareCheckpointCandidate (p : PendingIntegrityTransitionV1) (a : AnchorStatementRecordV1)
      (receipts : List ProviderEvidenceBlobV1) :
      AdapterCall (CheckpointCandidateRecordV1 × E.Bundles)
  | primeCatalog (previousGlobal previousMission : Option IntegrityLineageV1) : AdapterCall Unit
  | publishCheckpoint (c : CheckpointCandidateRecordV1) : AdapterCall Unit
  | observeCurrentFloor (p : PendingIntegrityTransitionV1) (c : CheckpointCandidateRecordV1) :
      AdapterCall (HeadCheckpointFloorV1 × List ProviderEvidenceBlobV1)

/-- The operation name of a call. -/
def AdapterCall.operation {ρ : Type} : AdapterCall E ρ → String
  | .preparePendingTransition .. => "prepare_pending_transition"
  | .prepareAnchorStatement _ => "prepare_anchor_statement"
  | .registerAnchorStatement .. => "register_anchor_statement"
  | .prepareCheckpointCandidate .. => "prepare_checkpoint_candidate"
  | .primeCatalog .. => "prime_catalog"
  | .publishCheckpoint _ => "publish_checkpoint"
  | .observeCurrentFloor .. => "observe_current_floor"

/-- What an object outside the kernel does when it is called : it returns a value, it
raises, or it returns something whose first use raises. -/
inductive Reply (ρ : Type)
  | value (r : ρ)
  | raises (x : Raised)
  | malformed (x : Raised)

/-- The values of a `QualifiedTimeBundleV1` that an observation retains. -/
structure QualifiedTimeBundleV1 where
  bundleId : Digest
  timePolicyId : Digest
  timeLowerBound : ℕ
  timeUpperBound : ℕ
  evidence : List EvidenceReferenceV1

/-- The calls of a facade operation. -/
inductive FacadeCall : Type → Type 1
  | transaction {ρ : Type} (x : Txn E ρ) : FacadeCall (Except StoreError ρ)
  | read : FacadeCall E.Db
  | adapter {ρ : Type} (c : AdapterCall E ρ) : FacadeCall (Reply ρ)
  | qualifiedTime : FacadeCall (Reply QualifiedTimeBundleV1)

/-- A facade operation. -/
abbrev FacadeProg (ρ : Type) : Type 1 := Prog (FacadeCall E) Raised ρ

variable {E}

/-- A check of the integrity contract. -/
def checked {α : Type} (x : Except IntegrityError α) : FacadeProg E α :=
  .done (x.mapError .transition)

/-- One store transaction. -/
def storeCall {ρ : Type} (x : Txn E ρ) : FacadeProg E ρ :=
  .call (.transaction x) fun y => .done (y.mapError StoreError.raised)

/-- An operation of the store. -/
def ofProgram {ρ : Type} : Program E ρ → FacadeProg E ρ
  | .done r => .done (r.mapError StoreError.raised)
  | .transaction x next => .call (.transaction x) fun y => ofProgram (next y)
  | .read next => .call .read fun t => ofProgram (next t)

/-- `_call_modeled_integrity_adapter`, with the first use of what it returns. -/
def callModeledIntegrityAdapter {ρ : Type} (c : AdapterCall E ρ) : FacadeProg E ρ :=
  .call (.adapter c) fun
  | .value r => pure r
  | .raises x => .raise (x.ofAdapter c.operation)
  | .malformed x => .raise x

/-- `qualified_time`. -/
def qualifiedTime : FacadeProg E QualifiedTimeBundleV1 :=
  .call .qualifiedTime fun
  | .value r => pure r
  | .raises x => .raise x
  | .malformed x => .raise x

/-! ## Blocked observations -/

/-- `BLOCKED_OPERATIONS_V1`. -/
def blockedOperationsV1 : List String :=
  ["observe_current_floor", "prepare_anchor_statement", "prepare_checkpoint_candidate",
    "propose_transition", "publish_checkpoint", "recover_lineage", "register_anchor_statement"]

/-- `BLOCKED_REASON_CODES_V1`. -/
def blockedReasonCodesV1 : List String :=
  ["invalid_integrity_event", "modeled_anchor_equivocation", "modeled_anchor_scope_mismatch",
    "modeled_anchor_sequence_conflict", "modeled_catalog_compare_and_set_failed",
    "modeled_catalog_global_conflict", "modeled_catalog_mission_conflict",
    "modeled_checkpoint_identity_conflict", "modeled_integrity_adapter_contract_failure",
    "modeled_integrity_retry_conflict", "modeled_integrity_recovery_phase_changed"]

/-- `MAX_BLOCKED_ATTEMPT_ORDINAL_V1`. -/
def maxBlockedAttemptOrdinalV1 : ℕ := 2 ^ 20

/-- `MAX_BLOCKED_OBSERVATIONS_V1`, which also bounds the time evidence. -/
def maxBlockedObservationsV1 : ℕ := 256

/-- The blockable phase a lineage phase is. -/
def LineagePhase.blockable : LineagePhase → Option BlockablePhase
  | .localPending => some .localPending
  | .anchorStatementReady => some .anchorStatementReady
  | .checkpointCandidateRetained => some .checkpointCandidateRetained
  | .finalized => none

/-- `ModeledIntegrityFinalizingEventStoreV1`, with the recovery profile it governs blocks
by if it has one. -/
structure Facade (E : Env) where
  serviceInstanceId : String
  environmentId : String
  validationPolicy : IntegrityValidationPolicyV1
  authorityBinding : ModeledIntegrityAuthorityBindingV1
  acceptanceMode : AcceptanceMode
  blockedFinality : Option BlockedFinalityRecoveryProfileV1
  /-- What a record without transient bundles carries. -/
  noBundles : E.Bundles
  /-- `content_id` of an observation's semantics, which leave its own identity out. -/
  observationContentId : BlockedFinalityObservationV1 → Digest

variable (F : Facade E)

/-- `BlockedFinalityObservationV1.record`, with the checks of its constructor. -/
def Facade.recordObservation (profile : BlockedFinalityRecoveryProfileV1)
    (p : PendingIntegrityTransitionV1) (phase : BlockablePhase) (phaseRecordId : Digest)
    (operation reasonCode : String) (ordinal : ℕ) (time : QualifiedTimeBundleV1) :
    Except IntegrityError BlockedFinalityObservationV1 :=
  if h : 0 < ordinal ∧ ordinal ≤ maxBlockedAttemptOrdinalV1 then do
    refuseIf (time.timeUpperBound < time.timeLowerBound)
      ⟨"invalid_blocked_observation", "observation time hull is reversed"⟩
    refuseIf (time.evidence.length < 2 ∨ maxBlockedObservationsV1 < time.evidence.length)
      ⟨"invalid_blocked_evidence_references", "time_evidence must be a bounded quorum"⟩
    let o : BlockedFinalityObservationV1 :=
      { profileId := E.recovery.profileId profile
        trustRootId := profile.authorityBinding.trustSnapshotId
        serviceInstanceId := profile.serviceInstanceId
        environmentId := profile.environmentId
        missionId := p.missionId
        authorityId := p.decision.authorityId
        targetId := p.decision.targetId
        eventDigest := p.eventDigest
        eventSeq := p.eventSeq
        instanceSequence := p.instanceSequence
        pendingRecordId := E.integrity.pendingRecordId p
        unresolvedPhase := phase
        unresolvedPhaseRecordId := phaseRecordId
        blockedOperation := operation
        blockedReasonCode := reasonCode
        attemptOrdinal := ordinal
        timeBundleId := time.bundleId
        timeLowerBound := time.timeLowerBound
        timeUpperBound := time.timeUpperBound
        timePolicyId := time.timePolicyId
        timeEvidence := time.evidence
        observationId := 0
        ordinalPos := h.1 }
    return { o with observationId := F.observationContentId o }
  else .error ⟨"invalid_blocked_attempt_ordinal",
    "attempt_ordinal must be a bounded positive attempt ordinal"⟩

/-- The attempt after the retained ones. -/
def nextAttemptOrdinal (retained : List BlockedFinalityObservationV1) : ℕ :=
  retained.getLast?.elim 1 fun o => o.attemptOrdinal + 1

/-- `_retain_blocked_observation`. -/
def Facade.retainBlockedObservation (l : IntegrityLineageV1) (blocked : IntegrityError)
    (blockedOperation : String) : FacadeProg E Unit :=
  match F.blockedFinality with
  | none => pure ()
  | some profile => do
    let message := "the blocked transition has no matching durable lineage"
    match ← storeCall (.loadIntegrityLineage l.pending.eventDigest) with
    | none => .raise (.store (storeError message))
    | some current =>
      if E.integrity.pendingRecordId current.pending ≠ E.integrity.pendingRecordId l.pending then
        .raise (.store (storeError message))
      else match current.phase.blockable with
      | none => pure ()
      | some phase => do
        let operation :=
          if blockedOperation ∈ blockedOperationsV1 then blockedOperation else "recover_lineage"
        let reasonCode :=
          if blocked.reasonCode ∈ blockedReasonCodesV1 then blocked.reasonCode
          else contractFailure
        let retained ← storeCall (.loadBlockedFinalityObservations current.pending.eventDigest)
        let time ← qualifiedTime
        let o ← .done ((F.recordObservation profile current.pending phase
          (current.phaseRecordId E.integrity) operation reasonCode (nextAttemptOrdinal retained)
          time).mapError .blockedContract)
        let _ ← storeCall (.retainBlockedFinalityObservation o)
        return ()

/-! ## Barriers -/

/-- `_require_unsealed_instance`. -/
def Facade.requireUnsealedInstance : FacadeProg E Unit :=
  match F.blockedFinality with
  | none => pure ()
  | some _ => do
    if ← storeCall .instanceIsSealed then
      .raise (.instanceSealed ⟨"modeled_integrity_instance_sealed",
        "a governed seal forbids every further consequential command"⟩)
    else pure ()

/-- The refusals of `_require_recovery_authorization` that name the latest block. -/
def recoveryUnauthorized (message : String) (latest : BlockedFinalityObservationV1) : Raised :=
  .recoveryNotAuthorized ⟨"modeled_integrity_recovery_unauthorized",
    message ++ ": attempt " ++ toString latest.attemptOrdinal ++ " was blocked at " ++
      latest.unresolvedPhase.text ++ " during " ++ latest.blockedOperation ++ " with reason " ++
      latest.blockedReasonCode⟩

/-- The handler of a refused resolution. -/
def resolutionRefused (x : IntegrityError) : Raised :=
  if x.reasonCode = "blocked_observation_stale" then
    .finalityBlocked ⟨"modeled_integrity_recovery_phase_changed",
      "the retained retry decision does not authorize the current phase"⟩ "recover_lineage"
  else .recoveryNotAuthorized x

/-- `_require_recovery_authorization`. -/
def Facade.requireRecoveryAuthorization (l : IntegrityLineageV1) : FacadeProg E Unit :=
  match F.blockedFinality with
  | none => pure ()
  | some profile => do
    let observations ← storeCall (.loadBlockedFinalityObservations l.pending.eventDigest)
    match observations.getLast? with
    | none => pure ()
    | some latest => do
      match ← storeCall (.loadGovernedRecoveryDecision latest.observationId) with
      | none => .raise (recoveryUnauthorized
          "a retained blocked observation has no governed recovery decision" latest)
      | some signed => do
        let resolution ← .done ((resolveBlockedFinalityV1 E.recovery profile observations l.phase
          (l.phaseRecordId E.integrity) signed).mapError resolutionRefused)
        if resolution.disposition ≠ .retryAuthorized then
          .raise (recoveryUnauthorized
            "the retained governed decision does not authorize a retry" latest)
        else pure ()

/-! ## Predecessors and bindings -/

/-- `_event_for_lineage`. -/
def eventForLineage (l : IntegrityLineageV1) : FacadeProg E EventV1 := do
  match ← storeCall (.loadIntegrityEvent l.pending.eventDigest) with
  | none => .raise (.transition ⟨"integrity_event_missing",
      "retained integrity lineage has no canonical event"⟩)
  | some e =>
    if e.missionId ≠ l.pending.missionId ∨ e.seq ≠ l.pending.eventSeq then
      .raise (.transition ⟨"integrity_event_missing",
        "retained integrity lineage has no canonical event"⟩)
    else pure e

/-- `_validated_predecessors`. -/
def validatedPredecessors (e : EventV1)
    (previous : Option IntegrityLineageV1 × Option IntegrityLineageV1) :
    Except IntegrityError (Option IntegrityLineageV1 × Option IntegrityLineageV1) :=
  if e.seq = 0 then do
    refuseIf (e.prevDigest ≠ genesisDigest) ⟨"invalid_integrity_event_predecessor",
      "event zero must extend the fixed event genesis"⟩
    refuseIf (previous.2 ≠ none) ⟨"invalid_integrity_event_predecessor",
      "first mission event cannot have a finalized mission predecessor"⟩
    return (previous.1, none)
  else do
    refuseIf (previous.1 = none ∨ previous.2.map (·.pending.eventDigest) ≠ some e.prevDigest)
      ⟨"uncheckpointed_integrity_prefix",
        "modeled integrity requires exact finalized global and mission predecessors"⟩
    return previous

/-- `_latest_predecessors_for_new_event`. -/
def latestPredecessorsForNewEvent (e : EventV1) :
    FacadeProg E (Option IntegrityLineageV1 × Option IntegrityLineageV1) := do
  let previous ← storeCall (.loadLatestFinalizedIntegrityLineages e.missionId)
  checked (validatedPredecessors e previous)

/-- `_retained_predecessors`. -/
def retainedPredecessors (l : IntegrityLineageV1) :
    FacadeProg E (Option IntegrityLineageV1 × Option IntegrityLineageV1) := do
  let e ← eventForLineage l
  let previous ← storeCall (.loadIntegrityPredecessorLineages l.pending.eventDigest)
  checked (validatedPredecessors e previous)

/-- A record's trust store and key are the enrolled ones. -/
def requireAuthorityBinding (trust : IntegrityTrustStore) (keyId enrolledKeyId : KeyId)
    (b : ModeledIntegrityAuthorityBindingV1) (message : String) : Except IntegrityError Unit :=
  refuseIf (E.integrity.trustSnapshotId trust ≠ b.trustSnapshotId ∨ keyId ≠ enrolledKeyId ∨
      trust ≠ b.trustStore)
    ⟨"modeled_integrity_authority_binding_mismatch", message⟩

/-- `_require_pending_authority_binding`. -/
def requirePendingAuthorityBinding (p : PendingIntegrityTransitionV1)
    (b : ModeledIntegrityAuthorityBindingV1) : Except IntegrityError Unit :=
  requireAuthorityBinding (E := E) p.decisionTrustStore p.signedDecision.keyId b.decisionKeyId b
    "pending transition differs from the enrolled modeled fixture authority"

/-- `_require_checkpoint_authority_binding`. -/
def requireCheckpointAuthorityBinding (c : CheckpointCandidateRecordV1)
    (b : ModeledIntegrityAuthorityBindingV1) : Except IntegrityError Unit :=
  requireAuthorityBinding (E := E) c.checkpointTrustStore c.signedCheckpoint.keyId
    b.checkpointKeyId b "checkpoint candidate differs from the enrolled modeled fixture authority"

/-! ## Recovery -/

/-- The anchor statement of a lineage : the retained one is validated again, a missing
one is prepared and retained. -/
def anchorOf (l : IntegrityLineageV1) (previousMission : Option IntegrityLineageV1) :
    FacadeProg E AnchorStatementRecordV1 :=
  match l.anchorStatement with
  | none => do
    let (a, bundles) ← callModeledIntegrityAdapter (.prepareAnchorStatement l.pending)
    checked (validateAnchorStatement E.integrity l.pending a previousMission)
    storeCall (.retainIntegrityAnchorStatement a bundles)
  | some a => do
    checked (validateAnchorStatement E.integrity l.pending a previousMission)
    return a

/-- The checkpoint candidate of a lineage. -/
def Facade.candidateOf (e : EventV1) (l : IntegrityLineageV1) (a : AnchorStatementRecordV1)
    (previous : Option IntegrityLineageV1 × Option IntegrityLineageV1) :
    FacadeProg E CheckpointCandidateRecordV1 :=
  match l.checkpointCandidate with
  | none => do
    let receipts ← callModeledIntegrityAdapter (.registerAnchorStatement a
      (if F.acceptanceMode = .qualifiedSigned then some l.pending else none))
    let (c, bundles) ← callModeledIntegrityAdapter
      (.prepareCheckpointCandidate l.pending a receipts)
    checked (requireCheckpointAuthorityBinding (E := E) c F.authorityBinding)
    let _ ← checked (validateCheckpointCandidate E.integrity e l.pending a c previous.1 previous.2)
    storeCall (.retainIntegrityCheckpointCandidate c bundles)
  | some c => do
    checked (requireCheckpointAuthorityBinding (E := E) c F.authorityBinding)
    let _ ← checked (validateCheckpointCandidate E.integrity e l.pending a c previous.1 previous.2)
    return c

/-- The finalization the facade makes of an observed floor, with the checks of its
constructor. -/
def Facade.proposedFinalization (l : IntegrityLineageV1) (c : CheckpointCandidateRecordV1)
    (floor : HeadCheckpointFloorV1) (evidence : List ProviderEvidenceBlobV1) :
    Except IntegrityError FinalizedIntegrityTransitionV1 := do
  refuseIf (256 < evidence.length ∨ ¬evidence.Pairwise ProviderEvidenceBlobV1.Before)
    ⟨"invalid_provider_evidence_set",
      "provider evidence must be sorted, unique, and within the aggregate ceiling"⟩
  if h : evidenceCovers floor.evidence evidence then
    .ok
      { pendingRecordId := E.integrity.pendingRecordId l.pending
        checkpointCandidateRecordId := E.integrity.candidateRecordId c
        eventDigest := l.pending.eventDigest
        externalHeadFloor := floor
        providerEvidence := evidence
        acceptanceMode := F.acceptanceMode
        covered := h }
  else .error ⟨"finalized_transition_evidence_coverage_mismatch",
    "finalized_transition provider evidence differs"⟩

/-- The finalization of a lineage. -/
def Facade.finalizationOf (e : EventV1) (l : IntegrityLineageV1) (c : CheckpointCandidateRecordV1)
    (previous : Option IntegrityLineageV1 × Option IntegrityLineageV1) :
    FacadeProg E FinalizedIntegrityTransitionV1 :=
  match l.finalization with
  | none => do
    callModeledIntegrityAdapter (.publishCheckpoint c)
    let (floor, evidence) ← callModeledIntegrityAdapter (.observeCurrentFloor l.pending c)
    let f ← checked (F.proposedFinalization l c floor evidence)
    let _ ← checked (validateFinalization E.integrity e l f previous.1 previous.2)
    storeCall (.finalizeIntegrityTransition f F.noBundles)
  | some f => return f

/-- `_recover_lineage`. -/
def Facade.recoverLineage (l : IntegrityLineageV1) : FacadeProg E IntegrityLineageV1 := do
  let e ← eventForLineage l
  let previous ← retainedPredecessors l
  checked (requirePendingAuthorityBinding (E := E) l.pending F.authorityBinding)
  checked (validatePendingTransition E.integrity e l.pending previous.1 previous.2
    F.serviceInstanceId F.environmentId F.validationPolicy)
  callModeledIntegrityAdapter (.primeCatalog previous.1 previous.2)
  let a ← anchorOf l previous.2
  let l ← checked (IntegrityLineageV1.construct E.integrity l.pending (some a)
    l.checkpointCandidate l.finalization)
  let c ← F.candidateOf e l a previous
  let l ← checked (IntegrityLineageV1.construct E.integrity l.pending (some a) (some c)
    l.finalization)
  let f ← F.finalizationOf e l c previous
  let completed ← checked (IntegrityLineageV1.construct E.integrity l.pending (some a) (some c)
    (some f))
  let _ ← checked (validateFinalizedIntegrityTransition E.integrity completed e previous.1
    previous.2)
  return completed

/-- `_classified_advance_finality`. -/
def Facade.classifiedAdvanceFinality (l : IntegrityLineageV1) : FacadeProg E IntegrityLineageV1 :=
  (F.recoverLineage l).handle fun x => .raise x.classified

/-- The handler of `_advance_finality` : a block is retained and raised again. -/
def Facade.retainBlock (l : IntegrityLineageV1) : Raised → FacadeProg E IntegrityLineageV1
  | .finalityBlocked e operation => do
    F.retainBlockedObservation l e operation
    .raise (.finalityBlocked e operation)
  | x => .raise x

/-- `_advance_finality`. -/
def Facade.advanceFinality (l : IntegrityLineageV1) : FacadeProg E IntegrityLineageV1 := do
  F.requireUnsealedInstance
  Prog.handle (do
    F.requireRecoveryAuthorization l
    F.classifiedAdvanceFinality l) (F.retainBlock l)

/-- A lineage's finalization, which an advance must have reached. -/
def requireReached (l : IntegrityLineageV1) (message : String) :
    FacadeProg E FinalizedIntegrityTransitionV1 :=
  match l.finalization with
  | none => .raise (.finalityPending ⟨"integrity_finality_pending", message⟩)
  | some f => pure f

/-- `recover_pending_transition`. -/
def Facade.recoverPendingTransition : FacadeProg E (Option FinalizedIntegrityTransitionV1) := do
  match ← storeCall .loadUnresolvedIntegrityTransition with
  | none => return none
  | some l => do
    let completed ← F.advanceFinality l
    let f ← requireReached completed "modeled integrity recovery did not reach finality"
    return some f

/-! ## Operations -/

/-- A retained event that is appended again : its complete lineage is validated. -/
def Facade.confirmRetained (e : EventV1) (expectedHead : Digest) (retained : EventV1) :
    FacadeProg E EventV1 :=
  if retained ≠ e ∨ expectedHead ≠ e.prevDigest then
    .raise (.finalityBlocked ⟨"modeled_integrity_retry_conflict",
      "retained event retry differs from the exact event or its original predecessor"⟩
      "recover_lineage")
  else do
    let incomplete : Raised := .finalityPending ⟨"integrity_finality_pending",
      "exact retained event retry has no complete modeled finality lineage"⟩
    match ← storeCall (.loadIntegrityLineage e.eventDigest) with
    | none => .raise incomplete
    | some l =>
      if l.pending.eventDigest ≠ e.eventDigest ∨ l.finalization = none then .raise incomplete
      else match l.checkpointCandidate with
      | none => .raise incomplete
      | some c => do
        let previous ← retainedPredecessors l
        checked (requirePendingAuthorityBinding (E := E) l.pending F.authorityBinding)
        checked (requireCheckpointAuthorityBinding (E := E) c F.authorityBinding)
        let _ ← checked (validateFinalizedIntegrityTransition E.integrity l retained previous.1
          previous.2)
        return retained

/-- The proposal of `_append_and_finalize`. -/
def Facade.proposePending (e : EventV1)
    (previous : Option IntegrityLineageV1 × Option IntegrityLineageV1) :
    FacadeProg E (PendingIntegrityTransitionV1 × E.Bundles) :=
  Prog.handle (do
    let (p, bundles) ← callModeledIntegrityAdapter
      (.preparePendingTransition e previous.1 previous.2)
    checked (requirePendingAuthorityBinding (E := E) p F.authorityBinding)
    checked (validatePendingTransition E.integrity e p previous.1 previous.2 F.serviceInstanceId
      F.environmentId F.validationPolicy)
    return (p, bundles)) fun x => .raise x.proposal

/-- `_append_and_finalize`. -/
def Facade.appendAndFinalize (e : EventV1) (expectedHead : Digest) (staging : Option E.Staging) :
    FacadeProg E EventV1 := do
  let _ ← F.recoverPendingTransition
  match ← storeCall (.loadIntegrityEvent e.eventDigest) with
  | some retained => F.confirmRetained e expectedHead retained
  | none => do
    let previous ← latestPredecessorsForNewEvent e
    let (p, bundles) ← F.proposePending e previous
    let retained ← ofProgram (appendPendingIntegrityEvent ⟨e, expectedHead, p, bundles, staging⟩)
    match ← storeCall (.loadIntegrityLineage retained.eventDigest) with
    | none => .raise (.transition ⟨"pending_integrity_lineage_missing",
        "committed event has no retained pending integrity lineage"⟩)
    | some l => do
      let completed ← F.advanceFinality l
      let _ ← requireReached completed
        "local event committed without modeled current-head finality"
      return retained

/-- `append`. -/
def Facade.append (e : EventV1) (expectedHead : Digest) : FacadeProg E EventV1 :=
  F.appendAndFinalize e expectedHead none

/-- `append_evidence_event` and `append_receipt_admission`. -/
def Facade.appendEvidenceEvent (e : EventV1) (expectedHead : Digest) (s : E.Staging) :
    FacadeProg E EventV1 :=
  F.appendAndFinalize e expectedHead (some s)

/-- `load`. -/
def Facade.load (m : Digest) : FacadeProg E (List EventV1) := do
  F.requireUnsealedInstance
  let _ ← F.recoverPendingTransition
  storeCall (.load m)

/-- `require_finalized`. -/
def Facade.requireFinalized (d : Digest) : FacadeProg E FinalizedIntegrityTransitionV1 := do
  let incomplete : Raised := .finalityPending ⟨"integrity_finality_pending",
    "event lacks a retained modeled current-head finalization"⟩
  match ← storeCall (.loadIntegrityLineage d) with
  | none => .raise incomplete
  | some l =>
    match l.finalization with
    | none => .raise incomplete
    | some f => do
      let e ← eventForLineage l
      let previous ← retainedPredecessors l
      checked (requirePendingAuthorityBinding (E := E) l.pending F.authorityBinding)
      match l.checkpointCandidate with
      | none => .raise (.finalityPending ⟨"integrity_finality_pending",
          "event lacks a retained modeled checkpoint candidate"⟩)
      | some c => do
        checked (requireCheckpointAuthorityBinding (E := E) c F.authorityBinding)
        let _ ← checked (validateFinalizedIntegrityTransition E.integrity l e previous.1
          previous.2)
        return f

/-- The enrollments of `__init__`, which resolve the acceptance mode of the facade. -/
def Facade.enroll : FacadeProg E (Facade E) := do
  storeCall (.enrollModeledIntegrity ⟨F.serviceInstanceId, F.environmentId, F.validationPolicy,
    F.authorityBinding⟩)
  let mode ← storeCall .resolveAcceptanceMode
  match F.blockedFinality with
  | none => return { F with acceptanceMode := mode }
  | some profile => do
    let _ ← storeCall (.enrollBlockedFinalityRecovery profile)
    return { F with acceptanceMode := mode }

/-- The operations of a facade. -/
inductive FacadeOp (E : Env)
  | enroll
  | append (e : EventV1) (expectedHead : Digest)
  | appendEvidenceEvent (e : EventV1) (expectedHead : Digest) (s : E.Staging)
  | load (m : Digest)
  | recover
  | requireFinalized (d : Digest)

/-- An operation, for what it does to the store. -/
def FacadeOp.prog : FacadeOp E → FacadeProg E Unit
  | .enroll => do let _ ← F.enroll
  | .append e h => do let _ ← F.append e h
  | .appendEvidenceEvent e h s => do let _ ← F.appendEvidenceEvent e h s
  | .load m => do let _ ← F.load m
  | .recover => do let _ ← F.recoverPendingTransition
  | .requireFinalized d => do let _ ← F.requireFinalized d

/-! ## Calls and their surroundings -/

/-- What a call of connection `i` does : a transaction is a step of the store, and the
adapter and the time source reply anything. `between` is what may happen before a call. -/
def facadeCalls (between : Sys E → Sys E → Prop) (i : ℕ) (σ : Type) (s : Sys E)
    (c : FacadeCall E σ) (y : σ) (s' : Sys E) : Prop :=
  match c with
  | .transaction x => ∃ s₁, between s s₁ ∧ Step s₁ i x y s'
  | .read => between s s' ∧ y = s'.tables
  | .adapter _ => between s s'
  | .qualifiedTime => between s s'

/-- The calls of a facade whose store no one else uses. -/
abbrev sequential (i : ℕ) : (σ : Type) → Sys E → FacadeCall E σ → σ → Sys E → Prop :=
  facadeCalls Eq i

/-- The calls of a facade beside any number of other connections. -/
abbrev interleaved (i : ℕ) : (σ : Type) → Sys E → FacadeCall E σ → σ → Sys E → Prop :=
  facadeCalls Reaches i

/-! ## Executions -/

/-- An adapter and a time source that answer each call in one way. -/
structure Script (E : Env) where
  adapter {ρ : Type} (c : AdapterCall E ρ) : Reply ρ
  time : Reply QualifiedTimeBundleV1

/-- A sequential run against a script. -/
def Script.run (A : Script E) (i : ℕ) {ρ : Type} :
    FacadeProg E ρ → Sys E → Except Raised ρ × Sys E
  | .done r, s => (r, s)
  | .call (.transaction x) next, s => A.run i (next (s.perform i x).1) (s.perform i x).2
  | .call .read next, s => A.run i (next s.tables) s
  | .call (.adapter c) next, s => A.run i (next (A.adapter c)) s
  | .call .qualifiedTime next, s => A.run i (next A.time) s

/-- Running a script is a sequential run. -/
theorem Script.run_ends (A : Script E) (i : ℕ) {ρ : Type} (p : FacadeProg E ρ) (s : Sys E) :
    Ends (sequential i) s p (A.run i p s).1 (A.run i p s).2 := by
  induction p generalizing s with
  | done r => exact .done
  | call c next ih =>
    cases c with
    | transaction x => exact .call ⟨s, rfl, s.perform_step i x⟩ (ih _ _)
    | read => exact .call ⟨rfl, rfl⟩ (ih _ _)
    | adapter c => exact .call rfl (ih _ _)
    | qualifiedTime => exact .call rfl (ih _ _)

/-! ## A sample facade -/

def sampleFacade : Facade sampleEnv where
  serviceInstanceId := "service"
  environmentId := "test"
  validationPolicy := sampleProfile.validationPolicy
  authorityBinding := sampleProfile.authorityBinding
  acceptanceMode := .modeledUnsigned
  blockedFinality := none
  noBundles := ()
  observationContentId o := 880 + BitVec.ofNat 256 o.attemptOrdinal

/-- The sample mission's event at a position. -/
def sampleAt (n : ℕ) : EventV1 := if n = 0 then sampleFirst else sampleSecond

/-- An adapter that serves the sample mission. -/
def sampleService {ρ : Type} : AdapterCall sampleEnv ρ → Reply ρ
  | .preparePendingTransition e _ _ => .value (samplePending e.seq e, ())
  | .prepareAnchorStatement p => .value (sampleAnchor p.eventSeq (sampleAt p.eventSeq), ())
  | .registerAnchorStatement _ _ => .value [sampleBlob .headAnchorReceipt "anchor" 5]
  | .prepareCheckpointCandidate p _ _ =>
    .value (sampleCheckpointCandidate p.eventSeq (sampleAt p.eventSeq), ())
  | .primeCatalog _ _ => .value ()
  | .publishCheckpoint _ => .value ()
  | .observeCurrentFloor p _ => .value (sampleHeadFloor (p.eventSeq + 1), [sampleFloorEvidence])

/-- The sample service with one operation that times out. -/
def sampleTimeout (operation : String) : Script sampleEnv where
  adapter c := if c.operation = operation then .raises .uncertain else sampleService c
  time := .value ⟨47, 42, 50, 50, sampleTime.map ProviderEvidenceBlobV1.reference⟩

/-- The sample service. -/
def sampleScript : Script sampleEnv := sampleTimeout ""

/-- A facade has enrolled a fresh store. -/
def sampleServed : Sys sampleEnv := (sampleScript.run 0 sampleFacade.enroll sampleOpened).2

/-- The sample mission's event is appended through the facade. -/
def Script.append (A : Script sampleEnv) (s : Sys sampleEnv) (e : EventV1) :
    Except Raised EventV1 × Sys sampleEnv :=
  A.run 0 (sampleFacade.appendEvidenceEvent e e.prevDigest ()) s

/-- The first event's finality waits for its anchor statement. -/
def sampleStalled : Sys sampleEnv :=
  ((sampleTimeout "prepare_anchor_statement").append sampleServed sampleFirst).2

end Etzio
