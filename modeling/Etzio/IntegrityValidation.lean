import Etzio.IntegrityRecords

/-!
# Integrity validation

The authenticators and validators of `integrity_v1` and `integrity_transition` that
the store calls : a pending dossier against its event and its finalized predecessors
(`validatePendingTransition`), an anchor statement against its dossier
(`validateAnchorStatement`), a checkpoint candidate against decision, event and
predecessors (`validateCheckpointCandidate`), and a finalization against the current
external floor (`validateFinalizedIntegrityTransition`). An expected value that the
source takes from the object under check itself is not compared again.

Three facts about an accepted transition are read off here : the dossier names the
event (`validatePendingTransition_event`), the event is the direct successor of the
mission predecessor's checkpoint (`validatePendingTransition_successor`), and the
checkpoint carries the event's sequence number (`validateCheckpointCandidate_eventSeq`).
-/

open CheckedRun

namespace Etzio

/-- `IntegrityError` and its wrappers : a reason code and a message. -/
structure IntegrityError where
  reasonCode : String
  message : String
  deriving DecidableEq, Repr

/-- `AuthenticatedIntegrityDecisionV1`. -/
structure AuthenticatedIntegrityDecisionV1 where
  signedDecision : SignedIntegrityDecisionV1
  signerPrincipalId : String
  trustSnapshotId : Digest
  deriving DecidableEq

/-- `AuthenticatedHeadCheckpointV1`. -/
structure AuthenticatedHeadCheckpointV1 where
  signedCheckpoint : SignedHeadCheckpointV1
  signerPrincipalId : String
  trustSnapshotId : Digest
  deriving DecidableEq

def AuthenticatedIntegrityDecisionV1.decision (a : AuthenticatedIntegrityDecisionV1) :
    IntegrityDecisionV1 :=
  a.signedDecision.decision

def AuthenticatedHeadCheckpointV1.checkpoint (a : AuthenticatedHeadCheckpointV1) :
    HeadCheckpointV1 :=
  a.signedCheckpoint.checkpoint

variable (I : IntegrityPrimitives)

/-- The reference a successor must carry to name this checkpoint. -/
def AuthenticatedHeadCheckpointV1.ref (a : AuthenticatedHeadCheckpointV1) : CheckpointRef where
  checkpointId := a.checkpoint.checkpointId
  attestationId := some (I.checkpointAttestationId a.signedCheckpoint)
  principalId := some a.signerPrincipalId
  trustSnapshotId := some a.trustSnapshotId

/-! ## Authentication -/

/-- `_authenticate_signed`. -/
def authenticateSigned (trust : IntegrityTrustStore) (keyId : KeyId) (role : IntegrityRole)
    (forbiddenKeyIds : List KeyId) (verify : TrustedIntegrityKey → Bool) :
    Except IntegrityError TrustedIntegrityKey := do
  refuseIf (keyId ∈ forbiddenKeyIds)
    ⟨"principal_separation_violation", "integrity signer key is forbidden for this decision"⟩
  refuseIf (keyId ∈ trust.revokedKeyIds) ⟨"key_revoked", "integrity signer key is revoked"⟩
  let key ← orRefuse (trust.key keyId) ⟨"unknown_key", "integrity signer key is unknown"⟩
  refuseIf (key.role ≠ role)
    ⟨"key_role_mismatch", "integrity signer key lacks the exact required role"⟩
  refuseIf (verify key = false) ⟨"invalid_signature", "integrity signature is invalid"⟩
  return key

/-- `_check_expected` for a digest under a label. -/
def checkExpected (actual expected : Digest) (label : String) : Except IntegrityError Unit :=
  refuseIf (actual ≠ expected)
    ⟨label ++ "_mismatch", "integrity evidence does not bind the expected " ++ label⟩

/-- `_require_max_uncertainty`. -/
def requireMaxUncertainty (lower upper maximum : ℕ) : Except IntegrityError Unit :=
  refuseIf (upper - lower > maximum)
    ⟨"time_uncertainty_exceeded",
      "trusted time interval exceeds the caller's fail-closed policy"⟩

/-- `_validate_decision_against_policy`. -/
def validateDecisionAgainstPolicy (d : IntegrityDecisionV1) (policy : IntegrityValidationPolicyV1) :
    Except IntegrityError Unit := do
  checkExpected d.decisionPolicyId policy.decisionPolicyId "decision_policy"
  checkExpected d.timePolicyId policy.decisionTimePolicyId "time_policy"
  requireMaxUncertainty d.timeLowerBound d.timeUpperBound policy.maxDecisionUncertaintySeconds
  refuseIf (∃ n ∈ policy.requiredRevocationNamespaces,
      n ∉ d.revocationViews.map RevocationViewV1.revocationNamespace)
    ⟨"missing_revocation_namespace",
      "integrity decision lacks policy-required revocation namespaces"⟩

/-- `_validate_checkpoint_against_policy`. -/
def validateCheckpointAgainstPolicy (c : HeadCheckpointV1) (policy : IntegrityValidationPolicyV1) :
    Except IntegrityError Unit := do
  checkExpected c.timePolicyId policy.checkpointTimePolicyId "time_policy"
  checkExpected c.anchorPolicyId policy.anchorPolicyId "anchor_policy"
  requireMaxUncertainty c.timeLowerBound c.timeUpperBound policy.maxCheckpointUncertaintySeconds

/-- `authenticate_integrity_decision`, under the policy's expectations. -/
def authenticateIntegrityDecision (signed : SignedIntegrityDecisionV1)
    (trust : IntegrityTrustStore) (policy : IntegrityValidationPolicyV1) :
    Except IntegrityError AuthenticatedIntegrityDecisionV1 := do
  let key ← authenticateSigned trust signed.keyId .integrityDecision []
    fun k => I.decisionSignatureValid k signed
  checkExpected signed.decision.timePolicyId policy.decisionTimePolicyId "time_policy"
  checkExpected signed.decision.decisionPolicyId policy.decisionPolicyId "decision_policy"
  requireMaxUncertainty signed.decision.timeLowerBound signed.decision.timeUpperBound
    policy.maxDecisionUncertaintySeconds
  refuseIf (policy.requiredRevocationNamespaces = [])
    ⟨"missing_revocation_namespace",
      "consequential integrity decisions require a revocation namespace"⟩
  refuseIf (∃ n ∈ policy.requiredRevocationNamespaces,
      n ∉ signed.decision.revocationViews.map RevocationViewV1.revocationNamespace)
    ⟨"missing_revocation_namespace", "integrity decision lacks required revocation namespaces"⟩
  return ⟨signed, key.principalId, I.trustSnapshotId trust⟩

/-- `authenticate_head_checkpoint`, under the policy's expectations. -/
def authenticateHeadCheckpoint (signed : SignedHeadCheckpointV1) (trust : IntegrityTrustStore)
    (forbiddenKeyIds : List KeyId) (forbiddenPrincipalIds : List String)
    (policy : IntegrityValidationPolicyV1) :
    Except IntegrityError AuthenticatedHeadCheckpointV1 := do
  let key ← authenticateSigned trust signed.keyId .headCheckpoint forbiddenKeyIds
    fun k => I.checkpointSignatureValid k signed
  refuseIf (key.principalId ∈ forbiddenPrincipalIds)
    ⟨"principal_separation_violation",
      "checkpoint signer principal is forbidden for this decision"⟩
  validateCheckpointAgainstPolicy signed.checkpoint policy
  return ⟨signed, key.principalId, I.trustSnapshotId trust⟩

/-- `_reauthenticate_decision_result`. -/
def reauthenticateDecisionResult (a : AuthenticatedIntegrityDecisionV1)
    (trust : IntegrityTrustStore) : Except IntegrityError Unit := do
  let key ← authenticateSigned trust a.signedDecision.keyId .integrityDecision []
    fun k => I.decisionSignatureValid k a.signedDecision
  refuseIf (key.principalId ≠ a.signerPrincipalId ∨ I.trustSnapshotId trust ≠ a.trustSnapshotId)
    ⟨"invalid_authenticated_decision",
      "decision result does not match its verified signer or trust snapshot"⟩

/-- `_reauthenticate_checkpoint_result`. -/
def reauthenticateCheckpointResult (a : AuthenticatedHeadCheckpointV1)
    (trust : IntegrityTrustStore) : Except IntegrityError Unit := do
  let key ← authenticateSigned trust a.signedCheckpoint.keyId .headCheckpoint []
    fun k => I.checkpointSignatureValid k a.signedCheckpoint
  refuseIf (key.principalId ≠ a.signerPrincipalId ∨ I.trustSnapshotId trust ≠ a.trustSnapshotId)
    ⟨"invalid_authenticated_checkpoint",
      "checkpoint result does not match its verified signer or trust snapshot"⟩

/-- `_authenticated_decision_self`. -/
def authenticatedDecisionSelf (p : PendingIntegrityTransitionV1) :
    Except IntegrityError AuthenticatedIntegrityDecisionV1 :=
  authenticateIntegrityDecision I p.signedDecision p.decisionTrustStore p.validationPolicy

/-- `_authenticated_checkpoint_self`. -/
def authenticatedCheckpointSelf (c : CheckpointCandidateRecordV1)
    (d : AuthenticatedIntegrityDecisionV1) (policy : IntegrityValidationPolicyV1) :
    Except IntegrityError AuthenticatedHeadCheckpointV1 :=
  authenticateHeadCheckpoint I c.signedCheckpoint c.checkpointTrustStore
    [d.signedDecision.keyId] [d.signerPrincipalId] policy

/-! ## Lineages -/

/-- The constructor of `IntegrityLineageV1` : no phase without the one before it, and
each record extends the exact one before it. -/
def IntegrityLineageV1.construct (pending : PendingIntegrityTransitionV1)
    (anchor : Option AnchorStatementRecordV1) (candidate : Option CheckpointCandidateRecordV1)
    (finalization : Option FinalizedIntegrityTransitionV1) :
    Except IntegrityError IntegrityLineageV1 := do
  refuseIf (anchor = none ∧ (candidate ≠ none ∨ finalization ≠ none))
    ⟨"integrity_lineage_gap",
      "checkpoint or finalization cannot exist without an anchor statement"⟩
  refuseIf (candidate = none ∧ finalization ≠ none)
    ⟨"integrity_lineage_gap", "finalization cannot exist without a checkpoint candidate"⟩
  refuseIf (∃ a ∈ anchor,
      a.pendingRecordId ≠ I.pendingRecordId pending ∨ a.eventDigest ≠ pending.eventDigest)
    ⟨"integrity_lineage_binding_mismatch",
      "anchor statement does not extend the pending transition"⟩
  refuseIf (∃ c ∈ candidate, c.pendingRecordId ≠ I.pendingRecordId pending ∨
      anchor.map I.anchorRecordId ≠ some c.anchorStatementRecordId ∨
      c.eventDigest ≠ pending.eventDigest)
    ⟨"integrity_lineage_binding_mismatch",
      "checkpoint candidate does not extend the exact anchor statement"⟩
  refuseIf (∃ f ∈ finalization, f.pendingRecordId ≠ I.pendingRecordId pending ∨
      candidate.map I.candidateRecordId ≠ some f.checkpointCandidateRecordId ∨
      f.eventDigest ≠ pending.eventDigest)
    ⟨"integrity_lineage_binding_mismatch",
      "finalization does not extend the exact checkpoint candidate"⟩
  return ⟨pending, anchor, candidate, finalization⟩

/-- `_authenticated_lineage_values` of a present predecessor. -/
def authenticatedLineageValues (l : IntegrityLineageV1) :
    Except IntegrityError (AuthenticatedIntegrityDecisionV1 × AuthenticatedHeadCheckpointV1 ×
      IntegrityTrustStore) := do
  let l ← IntegrityLineageV1.construct I l.pending l.anchorStatement l.checkpointCandidate
    l.finalization
  let candidate ← orRefuse l.checkpointCandidate
    ⟨"unfinalized_integrity_predecessor",
      "a successor requires a completely finalized predecessor"⟩
  refuseIf (l.finalization = none)
    ⟨"unfinalized_integrity_predecessor",
      "a successor requires a completely finalized predecessor"⟩
  let decision ← authenticatedDecisionSelf I l.pending
  let checkpoint ← authenticatedCheckpointSelf I candidate decision l.pending.validationPolicy
  return (decision, checkpoint, candidate.checkpointTrustStore)

/-- A predecessor's authenticated values, or nothing for no predecessor. -/
def authenticatedPredecessor (l : Option IntegrityLineageV1) :
    Except IntegrityError (Option (AuthenticatedIntegrityDecisionV1 ×
      AuthenticatedHeadCheckpointV1 × IntegrityTrustStore)) :=
  match l with
  | none => .ok none
  | some l => do return some (← authenticatedLineageValues I l)

/-! ## Continuity of revocation -/

/-- `_checkpoint_binds_decision_provenance`. -/
def checkpointBindsDecisionProvenance (c : HeadCheckpointV1)
    (d : AuthenticatedIntegrityDecisionV1) : Prop :=
  c.serviceInstanceId = d.decision.serviceInstanceId ∧
    c.environmentId = d.decision.environmentId ∧
    c.integrityDecisionId = d.decision.decisionId ∧
    c.integrityDecisionAttestationId = I.decisionAttestationId d.signedDecision ∧
    c.integrityDecisionPrincipalId = d.signerPrincipalId ∧
    c.integrityDecisionTrustSnapshotId = d.trustSnapshotId

instance (c : HeadCheckpointV1) (d : AuthenticatedIntegrityDecisionV1) :
    Decidable (checkpointBindsDecisionProvenance I c d) :=
  inferInstanceAs (Decidable (_ ∧ _))

/-- `_validate_checkpoint_decision_semantics`. -/
def validateCheckpointDecisionSemantics (c : HeadCheckpointV1)
    (a : AuthenticatedIntegrityDecisionV1) : Except IntegrityError Unit := do
  let d := a.decision
  refuseIf (c.serviceInstanceId ≠ d.serviceInstanceId ∨ c.environmentId ≠ d.environmentId ∨
      c.missionId ≠ d.missionId ∨ c.authorityId ≠ d.authorityId ∨ c.targetId ≠ d.targetId ∨
      ¬checkpointBindsDecisionProvenance I c a ∨
      (c.instanceSequence : ℤ) ≠ d.priorGlobalCheckpointSequence + 1 ∨
      c.previousCheckpoint ≠ d.priorGlobalCheckpoint ∨
      (c.eventSeq : ℤ) ≠ d.priorEventSeq + 1 ∨ c.eventDigest ≠ d.proposedEventDigest)
    ⟨"checkpoint_binding_mismatch", "checkpoint does not bind the exact authenticated decision"⟩
  refuseIf (c.timeLowerBound < d.timeUpperBound)
    ⟨"checkpoint_time_precedes_decision",
      "checkpoint interval does not conservatively follow the decision interval"⟩

/-- `_require_decision_follows_checkpoint`. -/
def requireDecisionFollowsCheckpoint (d : IntegrityDecisionV1) (c : HeadCheckpointV1) :
    Except IntegrityError Unit :=
  refuseIf (d.timeLowerBound < c.timeUpperBound)
    ⟨"decision_time_precedes_checkpoint",
      "decision interval does not conservatively follow its checkpoint predecessor"⟩

/-- The view or floor of a namespace. -/
def viewOf (views : List RevocationViewV1) (n : String) : Option RevocationViewV1 :=
  views.find? fun v => v.revocationNamespace = n

def floorOf (floors : List RevocationFloorV1) (n : String) : Option RevocationFloorV1 :=
  floors.find? fun f => f.revocationNamespace = n

/-- `_validate_current_revocation_against_external_floors`. -/
def validateCurrentRevocationAgainstExternalFloors (views : List RevocationViewV1)
    (floors : List RevocationFloorV1) : Except IntegrityError Unit :=
  views.forM fun v => do
    let f ← orRefuse (floorOf floors v.revocationNamespace)
      ⟨"external_revocation_floor_set_mismatch", "external revocation floor namespaces differ"⟩
    refuseIf (v.rootVersion < f.rootVersion)
      ⟨"external_revocation_root_rollback", "revocation root is below the external floor"⟩
    refuseIf (v.version < f.version)
      ⟨"external_revocation_version_rollback", "revocation version is below the external floor"⟩
    refuseIf (v.version = f.version ∧ v.snapshotId ≠ f.snapshotId)
      ⟨"external_revocation_equivocation",
        "revocation snapshot differs at the external floor"⟩

/-- No namespace of the previous decision is missing. -/
def requireNamespacesKept (priorViews views : List RevocationViewV1) :
    Except IntegrityError Unit :=
  let missing := (priorViews.map RevocationViewV1.revocationNamespace).filter fun n =>
    viewOf views n = none
  refuseIf (missing ≠ [])
    ⟨"revocation_namespace_removed", "revocation namespaces cannot disappear: " ++
      ", ".intercalate (missing.mergeSort fun n n' => decide (n ≤ n'))⟩

/-- The rules for one namespace of the previous decision. -/
def validateNamespaceAdvance (views : List RevocationViewV1) (floors : List RevocationFloorV1)
    (prior : RevocationViewV1) : Except IntegrityError Unit := do
  let candidate ← orRefuse (viewOf views prior.revocationNamespace)
    ⟨"revocation_namespace_removed", "revocation namespaces cannot disappear"⟩
  refuseIf (candidate.rootVersion < prior.rootVersion)
    ⟨"revocation_root_rollback", "revocation root version regressed"⟩
  refuseIf (candidate.version < prior.version)
    ⟨"revocation_version_rollback", "revocation version regressed"⟩
  refuseIf (candidate.version = prior.version ∧ candidate ≠ prior)
    ⟨"revocation_same_version_mutation", "revocation version changed bytes"⟩
  let f ← orRefuse (floorOf floors prior.revocationNamespace)
    ⟨"external_revocation_floor_set_mismatch", "external revocation floor namespaces differ"⟩
  refuseIf (f.rootVersion < prior.rootVersion ∨ f.version < prior.version)
    ⟨"external_revocation_floor_rollback",
      "external revocation floor is behind retained history"⟩
  refuseIf (f.version = prior.version ∧
      (f.rootVersion ≠ prior.rootVersion ∨ f.snapshotId ≠ prior.snapshotId))
    ⟨"external_revocation_equivocation", "external floor rewrites retained revocation state"⟩

/-- The part of `validate_revocation_advance` about the previous global head. -/
def validatePreviousGlobal (current : AuthenticatedIntegrityDecisionV1)
    (policy : IntegrityValidationPolicyV1) (previousTrust : Option IntegrityTrustStore)
    (previous : Option (AuthenticatedIntegrityDecisionV1 × AuthenticatedHeadCheckpointV1 ×
      IntegrityTrustStore)) : Except IntegrityError Unit :=
  match previous, previousTrust with
  | some (decision, checkpoint, checkpointTrust), some decisionTrust => do
    reauthenticateDecisionResult I decision decisionTrust
    validateDecisionAgainstPolicy decision.decision policy
    reauthenticateCheckpointResult I checkpoint checkpointTrust
    validateCheckpointAgainstPolicy checkpoint.checkpoint policy
    refuseIf (checkpoint.signerPrincipalId = decision.signerPrincipalId ∨
        checkpoint.signedCheckpoint.keyId = decision.signedDecision.keyId)
      ⟨"principal_separation_violation",
        "previous decision and checkpoint must have distinct principals"⟩
    refuseIf (¬checkpointBindsDecisionProvenance I checkpoint.checkpoint decision)
      ⟨"previous_global_decision_mismatch",
        "previous decision is not the one retained by the global checkpoint"⟩
    validateCheckpointDecisionSemantics I checkpoint.checkpoint decision
    refuseIf (current.decision.priorGlobalCheckpointSequence ≠
          checkpoint.checkpoint.instanceSequence ∨
        current.decision.priorGlobalCheckpoint ≠ checkpoint.ref I)
      ⟨"current_global_predecessor_mismatch",
        "current decision does not extend the supplied previous global checkpoint"⟩
    requireDecisionFollowsCheckpoint current.decision checkpoint.checkpoint
  | _, _ =>
    refuseIf (current.decision.priorGlobalCheckpointSequence ≠ -1)
      ⟨"previous_global_checkpoint_missing",
        "non-genesis decision requires its exact previous global checkpoint"⟩

/-- `validate_revocation_advance`. -/
def validateRevocationAdvance (current : AuthenticatedIntegrityDecisionV1)
    (trust : IntegrityTrustStore) (previousTrust : Option IntegrityTrustStore)
    (previous : Option (AuthenticatedIntegrityDecisionV1 × AuthenticatedHeadCheckpointV1 ×
      IntegrityTrustStore))
    (floors : List RevocationFloorV1) (policy : IntegrityValidationPolicyV1) :
    Except IntegrityError Unit := do
  reauthenticateDecisionResult I current trust
  validateDecisionAgainstPolicy current.decision policy
  validatePreviousGlobal I current policy previousTrust previous
  refuseIf (floors = [])
    ⟨"missing_external_revocation_floor", "revocation continuity requires typed external floors"⟩
  let d := current.decision
  refuseIf (∃ f ∈ floors, f.serviceInstanceId ≠ d.serviceInstanceId ∨
      f.environmentId ≠ d.environmentId ∨ f.decisionPolicyId ≠ d.decisionPolicyId)
    ⟨"external_revocation_floor_scope_mismatch",
      "external revocation floor belongs to another service or policy scope"⟩
  refuseIf ((∃ v ∈ d.revocationViews,
        v.revocationNamespace ∉ floors.map RevocationFloorV1.revocationNamespace) ∨
      ∃ f ∈ floors,
        f.revocationNamespace ∉ d.revocationViews.map RevocationViewV1.revocationNamespace)
    ⟨"external_revocation_floor_set_mismatch", "external revocation floor namespaces differ"⟩
  match previous with
  | none => validateCurrentRevocationAgainstExternalFloors d.revocationViews floors
  | some (decision, _, _) =>
    refuseIf (decision.decision.serviceInstanceId ≠ d.serviceInstanceId ∨
        decision.decision.environmentId ≠ d.environmentId)
      ⟨"integrity_scope_mismatch", "revocation decisions belong to different service scopes"⟩
    requireNamespacesKept decision.decision.revocationViews d.revocationViews
    decision.decision.revocationViews.forM (validateNamespaceAdvance d.revocationViews floors)
    validateCurrentRevocationAgainstExternalFloors d.revocationViews floors

/-! ## Pending transitions -/

/-- The dossier binds the exact proposed event. -/
structure PendingBindsEvent (p : PendingIntegrityTransitionV1) (e : EventV1) : Prop where
  eventDigest : p.eventDigest = e.eventDigest
  missionId : p.missionId = e.missionId
  eventSeq : p.eventSeq = e.seq
  authorityId : p.decision.authorityId = e.authorityId
  targetId : p.decision.targetId = e.targetId
  eventKind : p.decision.eventKind = e.kind.text
  proposedEventDigest : p.decision.proposedEventDigest = e.eventDigest
  priorEventSeq : p.decision.priorEventSeq = (e.seq : ℤ) - 1
  priorEventDigest : p.decision.priorEventDigest = e.prevDigest
  timeUpperBound : p.decision.timeUpperBound = e.decisionTime

instance (p : PendingIntegrityTransitionV1) (e : EventV1) : Decidable (PendingBindsEvent p e) :=
  decidable_of_iff (p.eventDigest = e.eventDigest ∧ p.missionId = e.missionId ∧
      p.eventSeq = e.seq ∧ p.decision.authorityId = e.authorityId ∧
      p.decision.targetId = e.targetId ∧ p.decision.eventKind = e.kind.text ∧
      p.decision.proposedEventDigest = e.eventDigest ∧
      p.decision.priorEventSeq = (e.seq : ℤ) - 1 ∧ p.decision.priorEventDigest = e.prevDigest ∧
      p.decision.timeUpperBound = e.decisionTime)
    ⟨fun ⟨a, b, c, d, f, g, h, i, j, k⟩ => ⟨a, b, c, d, f, g, h, i, j, k⟩,
      fun ⟨a, b, c, d, f, g, h, i, j, k⟩ => ⟨a, b, c, d, f, g, h, i, j, k⟩⟩

/-- `authenticate_pending_integrity_transition`. -/
def authenticatePendingIntegrityTransition (p : PendingIntegrityTransitionV1) (e : EventV1)
    (previousGlobal : Option IntegrityLineageV1) :
    Except IntegrityError AuthenticatedIntegrityDecisionV1 := do
  refuseIf (¬PendingBindsEvent p e)
    ⟨"pending_transition_event_mismatch",
      "pending decision does not bind the exact proposed event"⟩
  let current ← authenticatedDecisionSelf I p
  let previous ← authenticatedPredecessor I previousGlobal
  validateRevocationAdvance I current p.decisionTrustStore
    (previousGlobal.map fun l => l.pending.decisionTrustStore) previous p.revocationFloors
    p.validationPolicy
  return current

/-- `validate_pending_transition`. -/
def validatePendingTransition (e : EventV1) (p : PendingIntegrityTransitionV1)
    (previousGlobal previousMission : Option IntegrityLineageV1)
    (serviceInstanceId environmentId : String) (policy : IntegrityValidationPolicyV1) :
    Except IntegrityError Unit := do
  refuseIf (p.decision.serviceInstanceId ≠ serviceInstanceId ∨
      p.decision.environmentId ≠ environmentId ∨ p.validationPolicy ≠ policy)
    ⟨"integrity_enrollment_mismatch",
      "pending transition differs from the enrolled scope or policy"⟩
  let _ ← authenticatePendingIntegrityTransition I p e previousGlobal
  let floor := p.priorHeadFloor
  match previousMission with
  | none =>
    refuseIf (e.seq ≠ 0 ∨ floor.missionEventSeq ≠ -1 ∨ floor.missionCheckpoint.checkpointId ≠
        I.missionCheckpointGenesisId serviceInstanceId environmentId e.missionId)
      ⟨"prior_mission_head_floor_mismatch",
        "first mission event must extend its exact modeled mission genesis"⟩
  | some l =>
    let (_, checkpoint, _) ← authenticatedLineageValues I l
    refuseIf (floor.missionEventSeq ≠ checkpoint.checkpoint.eventSeq ∨
        floor.missionCheckpoint ≠ checkpoint.ref I ∨
        e.prevDigest ≠ checkpoint.checkpoint.eventDigest)
      ⟨"prior_mission_head_floor_mismatch",
        "modeled mission floor differs from the exact retained predecessor"⟩

/-! ## Anchor statements -/

/-- `_validate_predecessor_provenance`. -/
def validatePredecessorProvenance (sequence : ℤ) (r : CheckpointRef) (label : String) :
    Except IntegrityError Unit :=
  if sequence = -1 then
    refuseIf (r.attestationId ≠ none ∨ r.principalId ≠ none ∨ r.trustSnapshotId ≠ none)
      ⟨"invalid_checkpoint_provenance", label ++ " genesis must not claim attestation provenance"⟩
  else
    refuseIf (r.attestationId = none ∨ r.principalId = none ∨ r.trustSnapshotId = none)
      ⟨"invalid_checkpoint_provenance", label ++ " requires complete attestation provenance"⟩

/-- `MAX_EVIDENCE_REFS`. -/
def maxEvidenceRefs : ℕ := 16

/-- `_validated_evidence_references` of the time evidence : two or more trusted-time
references, sorted by source, with distinct sources and evidence identities. -/
def validateTimeReferences (refs : List EvidenceReferenceV1) : Except IntegrityError Unit := do
  refuseIf (refs.length < 2 ∨ refs.length > maxEvidenceRefs)
    ⟨"invalid_time_evidence", "time_evidence must contain 2..16 typed references"⟩
  refuseIf (∃ r ∈ refs, r.evidenceKind ≠ EvidenceKind.trustedTime)
    ⟨"invalid_time_evidence", "time_evidence requires only 'trusted_time' evidence"⟩
  refuseIf (¬refs.Pairwise (fun a b => a.sourceId < b.sourceId) ∨
      ¬(refs.map EvidenceReferenceV1.evidenceId).Nodup)
    ⟨"invalid_time_evidence",
      "time_evidence must be source-sorted with unique sources and evidence IDs"⟩

/-- `derive_anchor_statement_id`. -/
def deriveAnchorStatementId (b : AnchorRegistration) : Except IntegrityError Digest := do
  validatePredecessorProvenance (b.instanceSequence - 1) b.previousCheckpoint "previous_checkpoint"
  validatePredecessorProvenance (b.eventSeq - 1) b.previousMissionCheckpoint
    "previous_mission_checkpoint"
  refuseIf (b.timeLowerBound > b.timeUpperBound)
    ⟨"invalid_time_interval", "trusted time lower bound cannot exceed its upper bound"⟩
  validateTimeReferences b.timeEvidence
  return I.anchorStatementId b

/-- `_anchor_registration_body` of a dossier and an anchor statement. -/
def anchorRegistrationBody (p : PendingIntegrityTransitionV1)
    (d : AuthenticatedIntegrityDecisionV1) (a : AnchorStatementRecordV1) : AnchorRegistration where
  serviceInstanceId := p.decision.serviceInstanceId
  environmentId := p.decision.environmentId
  instanceSequence := p.instanceSequence
  previousCheckpoint := p.decision.priorGlobalCheckpoint
  previousMissionCheckpoint := a.previousMissionCheckpoint
  missionId := p.decision.missionId
  authorityId := p.decision.authorityId
  targetId := p.decision.targetId
  eventSeq := p.eventSeq
  eventDigest := p.eventDigest
  integrityDecisionId := p.decision.decisionId
  integrityDecisionAttestationId := I.decisionAttestationId p.signedDecision
  integrityDecisionPrincipalId := d.signerPrincipalId
  integrityDecisionTrustSnapshotId := d.trustSnapshotId
  timeLowerBound := a.timeLowerBound
  timeUpperBound := a.timeUpperBound
  timePolicyId := a.timePolicyId
  timeEvidence := a.timeEvidence
  anchorPolicyId := a.anchorPolicyId

/-- `validate_anchor_statement_record`. -/
def validateAnchorStatementRecord (p : PendingIntegrityTransitionV1)
    (a : AnchorStatementRecordV1) : Except IntegrityError Unit := do
  refuseIf (a.pendingRecordId ≠ I.pendingRecordId p ∨ a.eventDigest ≠ p.eventDigest ∨
      a.timePolicyId ≠ p.validationPolicy.checkpointTimePolicyId ∨
      a.anchorPolicyId ≠ p.validationPolicy.anchorPolicyId ∨
      a.timeLowerBound < p.decision.timeUpperBound)
    ⟨"anchor_statement_binding_mismatch",
      "anchor statement differs from its pending transition or policy"⟩
  let decision ← authenticatedDecisionSelf I p
  let body := anchorRegistrationBody I p decision a
  let expected ← deriveAnchorStatementId I body
  refuseIf (a.anchorStatementId ≠ expected ∨ a.registrationRequest ≠ body)
    ⟨"anchor_statement_binding_mismatch",
      "retained anchor identity or exact registration request is not code-derived"⟩

/-- `validate_anchor_statement`. -/
def validateAnchorStatement (p : PendingIntegrityTransitionV1) (a : AnchorStatementRecordV1)
    (previousMission : Option IntegrityLineageV1) : Except IntegrityError Unit := do
  validateAnchorStatementRecord I p a
  let floor := p.priorHeadFloor
  refuseIf (a.previousMissionCheckpoint ≠ floor.missionCheckpoint)
    ⟨"anchor_mission_predecessor_mismatch",
      "anchor statement differs from the pending external mission floor"⟩
  match previousMission with
  | none =>
    refuseIf (floor.missionEventSeq ≠ -1)
      ⟨"anchor_mission_predecessor_mismatch",
        "anchor claims a non-genesis mission predecessor that was not supplied"⟩
  | some l =>
    let (_, checkpoint, _) ← authenticatedLineageValues I l
    refuseIf (checkpoint.checkpoint.checkpointId ≠ a.previousMissionCheckpoint.checkpointId)
      ⟨"anchor_mission_predecessor_mismatch",
        "anchor does not extend the supplied finalized mission predecessor"⟩

/-! ## Checkpoints -/

/-- `_require_checkpoint_scope`. -/
def requireCheckpointScope (current previous : HeadCheckpointV1) : Except IntegrityError Unit :=
  refuseIf (current.serviceInstanceId ≠ previous.serviceInstanceId ∨
      current.environmentId ≠ previous.environmentId)
    ⟨"checkpoint_scope_mismatch",
      "checkpoint predecessor belongs to another service instance or environment"⟩

/-- `_validate_decision_mission_predecessor`. -/
def validateDecisionMissionPredecessor (c : HeadCheckpointV1) (d : IntegrityDecisionV1)
    (previous : Option AuthenticatedHeadCheckpointV1) : Except IntegrityError Unit :=
  if d.priorEventSeq = -1 then
    refuseIf (previous ≠ none ∨ c.previousMissionCheckpoint.checkpointId ≠
        I.missionCheckpointGenesisId c.serviceInstanceId c.environmentId c.missionId)
      ⟨"checkpoint_mission_branch", "event zero must extend the exact mission genesis"⟩
  else do
    let p ← orRefuse previous
      ⟨"checkpoint_mission_gap", "non-genesis event requires the previous mission checkpoint"⟩
    requireCheckpointScope c p.checkpoint
    refuseIf (p.checkpoint.missionId ≠ c.missionId ∨ p.checkpoint.authorityId ≠ c.authorityId ∨
        p.checkpoint.targetId ≠ c.targetId ∨ d.priorEventSeq ≠ p.checkpoint.eventSeq ∨
        d.priorEventDigest ≠ p.checkpoint.eventDigest ∨ c.previousMissionCheckpoint ≠ p.ref I)
      ⟨"checkpoint_mission_branch",
        "decision and checkpoint must extend the same exact mission head"⟩

/-- Reauthentication of an optional previous checkpoint under the policy. -/
def reauthenticatePrevious (policy : IntegrityValidationPolicyV1)
    (previous : Option (AuthenticatedHeadCheckpointV1 × IntegrityTrustStore)) :
    Except IntegrityError Unit :=
  match previous with
  | none => .ok ()
  | some (c, trust) => do
    reauthenticateCheckpointResult I c trust
    validateCheckpointAgainstPolicy c.checkpoint policy

/-- The checks `validate_checkpoint_binding` and `validate_checkpoint_advance` open with. -/
def reauthenticateTransition (c : AuthenticatedHeadCheckpointV1) (trust : IntegrityTrustStore)
    (d : AuthenticatedIntegrityDecisionV1) (decisionTrust : IntegrityTrustStore)
    (policy : IntegrityValidationPolicyV1) : Except IntegrityError Unit := do
  reauthenticateCheckpointResult I c trust
  reauthenticateDecisionResult I d decisionTrust
  validateCheckpointAgainstPolicy c.checkpoint policy
  validateDecisionAgainstPolicy d.decision policy

/-- One principal or key signs both the decision and the checkpoint. -/
def requireSeparation (c : AuthenticatedHeadCheckpointV1) (d : AuthenticatedIntegrityDecisionV1) :
    Except IntegrityError Unit :=
  refuseIf (c.signerPrincipalId = d.signerPrincipalId ∨
      c.signedCheckpoint.keyId = d.signedDecision.keyId)
    ⟨"principal_separation_violation",
      "one principal or key cannot decide and checkpoint the same transition"⟩

/-- `validate_checkpoint_binding`. -/
def validateCheckpointBinding (c : AuthenticatedHeadCheckpointV1) (trust : IntegrityTrustStore)
    (a : AuthenticatedIntegrityDecisionV1) (decisionTrust : IntegrityTrustStore) (e : EventV1)
    (previousMission : Option (AuthenticatedHeadCheckpointV1 × IntegrityTrustStore))
    (policy : IntegrityValidationPolicyV1) : Except IntegrityError Unit := do
  reauthenticateTransition I c trust a decisionTrust policy
  reauthenticatePrevious I policy previousMission
  requireSeparation c a
  validateCheckpointDecisionSemantics I c.checkpoint a
  let d := a.decision
  refuseIf (c.checkpoint.eventSeq ≠ e.seq ∨ c.checkpoint.eventDigest ≠ e.eventDigest ∨
      e.eventDigest ≠ d.proposedEventDigest ∨ e.missionId ≠ d.missionId ∨
      e.authorityId ≠ d.authorityId ∨ e.targetId ≠ d.targetId ∨
      e.prevDigest ≠ d.priorEventDigest ∨ (e.seq : ℤ) ≠ d.priorEventSeq + 1 ∨
      e.kind.text ≠ d.eventKind ∨ e.decisionTime ≠ d.timeUpperBound)
    ⟨"checkpoint_binding_mismatch",
      "head checkpoint does not bind the exact decision and resulting event"⟩
  validateDecisionMissionPredecessor I c.checkpoint d (previousMission.map Prod.fst)
  match previousMission with
  | none => .ok ()
  | some (p, _) => requireDecisionFollowsCheckpoint d p.checkpoint

/-- `_require_checkpoint_projection_consistency`. -/
def requireCheckpointProjectionConsistency
    (previousGlobal previousMission : Option AuthenticatedHeadCheckpointV1) :
    Except IntegrityError Unit :=
  match previousMission with
  | none => .ok ()
  | some m => do
    let g ← orRefuse previousGlobal
      ⟨"checkpoint_projection_branch",
        "a mission checkpoint cannot exist without an instance-global head"⟩
    refuseIf (m.checkpoint.instanceSequence > g.checkpoint.instanceSequence)
      ⟨"checkpoint_projection_branch",
        "mission checkpoint cannot be ahead of the instance-global head"⟩
    refuseIf (m.checkpoint.instanceSequence = g.checkpoint.instanceSequence ∧ g.ref I ≠ m.ref I)
      ⟨"checkpoint_projection_branch",
        "global and mission projections conflict at one instance sequence"⟩

/-- `_global_floor_matches_checkpoint`. -/
def globalFloorMatchesCheckpoint (f : HeadCheckpointFloorV1) (c : AuthenticatedHeadCheckpointV1) :
    Prop :=
  f.instanceSequence = c.checkpoint.instanceSequence ∧ f.checkpoint = c.ref I

/-- `_mission_floor_matches_checkpoint`. -/
def missionFloorMatchesCheckpoint (f : HeadCheckpointFloorV1) (c : AuthenticatedHeadCheckpointV1) :
    Prop :=
  f.missionEventSeq = c.checkpoint.eventSeq ∧ f.missionCheckpoint = c.ref I

instance (f : HeadCheckpointFloorV1) (c : AuthenticatedHeadCheckpointV1) :
    Decidable (globalFloorMatchesCheckpoint I f c) :=
  inferInstanceAs (Decidable (_ ∧ _))

instance (f : HeadCheckpointFloorV1) (c : AuthenticatedHeadCheckpointV1) :
    Decidable (missionFloorMatchesCheckpoint I f c) :=
  inferInstanceAs (Decidable (_ ∧ _))

/-- The floor names the global predecessor, or the instance genesis without one. -/
def globalFloorIsPredecessor (f : HeadCheckpointFloorV1) (genesis : Digest)
    (previous : Option AuthenticatedHeadCheckpointV1) : Bool :=
  match previous with
  | none => f.instanceSequence = -1 ∧ f.checkpoint.checkpointId = genesis
  | some p => globalFloorMatchesCheckpoint I f p

/-- The floor names the mission predecessor, or the mission genesis without one. -/
def missionFloorIsPredecessor (f : HeadCheckpointFloorV1) (genesis : Digest)
    (previous : Option AuthenticatedHeadCheckpointV1) : Bool :=
  match previous with
  | none => f.missionEventSeq = -1 ∧ f.missionCheckpoint.checkpointId = genesis
  | some p => missionFloorMatchesCheckpoint I f p

/-- The reconciliation of the external floor at the end of `validate_checkpoint_advance`. -/
def reconcileExternalFloor (c : AuthenticatedHeadCheckpointV1)
    (previousGlobal previousMission : Option AuthenticatedHeadCheckpointV1)
    (f : HeadCheckpointFloorV1) (globalGenesis missionGenesis : Digest) :
    Except IntegrityError Unit := do
  let globalCurrent := decide (globalFloorMatchesCheckpoint I f c)
  let missionCurrent := decide (missionFloorMatchesCheckpoint I f c)
  let globalPredecessor := globalFloorIsPredecessor I f globalGenesis previousGlobal
  let missionPredecessor := missionFloorIsPredecessor I f missionGenesis previousMission
  if (globalCurrent && missionCurrent) || (globalPredecessor && missionPredecessor) then
    .ok ()
  else do
    refuseIf (f.instanceSequence > c.checkpoint.instanceSequence ∨
        f.missionEventSeq > c.checkpoint.eventSeq)
      ⟨"local_head_below_external_floor",
        "externally retained checkpoint is ahead of local history"⟩
    refuseIf (globalCurrent ∨ missionCurrent ∨ globalPredecessor ∨ missionPredecessor)
      ⟨"external_head_floor_inconsistent",
        "external global and mission floors do not describe one catalog state"⟩
    refuseIf (f.instanceSequence = c.checkpoint.instanceSequence ∨
        f.missionEventSeq = c.checkpoint.eventSeq ∨
        (∃ p ∈ previousGlobal, f.instanceSequence = p.checkpoint.instanceSequence) ∨
        ∃ p ∈ previousMission, f.missionEventSeq = p.checkpoint.eventSeq)
      ⟨"external_head_floor_equivocation",
        "external floor has different identity or provenance at a retained sequence"⟩
    refuseIf ((∃ p ∈ previousGlobal, f.instanceSequence < p.checkpoint.instanceSequence) ∨
        ∃ p ∈ previousMission, f.missionEventSeq < p.checkpoint.eventSeq)
      ⟨"external_head_floor_rollback",
        "external floor is behind a retained checkpoint predecessor"⟩
    .error ⟨"external_head_floor_inconsistent",
      "external floor cannot be reconciled with local checkpoint continuity"⟩

/-- The global continuity rules of `validate_checkpoint_advance`. -/
def validateGlobalAdvance (c : HeadCheckpointV1) (d : IntegrityDecisionV1)
    (previous : Option AuthenticatedHeadCheckpointV1) (genesis : Digest) :
    Except IntegrityError Unit :=
  match previous with
  | none =>
    refuseIf (c.instanceSequence ≠ 0 ∨ c.previousCheckpoint.checkpointId ≠ genesis)
      ⟨"checkpoint_global_gap", "first global checkpoint must extend the instance genesis"⟩
  | some p => do
    requireCheckpointScope c p.checkpoint
    refuseIf (c.instanceSequence ≠ p.checkpoint.instanceSequence + 1 ∨
        c.previousCheckpoint ≠ p.ref I)
      ⟨"checkpoint_global_branch", "checkpoint does not extend the exact global head"⟩
    requireDecisionFollowsCheckpoint d p.checkpoint

/-- The mission continuity rules of `validate_checkpoint_advance`. -/
def validateMissionAdvance (c : HeadCheckpointV1)
    (previous : Option AuthenticatedHeadCheckpointV1) (genesis : Digest) :
    Except IntegrityError Unit :=
  match previous with
  | none =>
    refuseIf (c.eventSeq ≠ 0 ∨ c.previousMissionCheckpoint.checkpointId ≠ genesis)
      ⟨"checkpoint_mission_gap",
        "first mission checkpoint must cover event zero and extend mission genesis"⟩
  | some p => do
    requireCheckpointScope c p.checkpoint
    refuseIf (c.eventSeq ≠ p.checkpoint.eventSeq + 1 ∨
        c.previousMissionCheckpoint.checkpointId ≠ p.checkpoint.checkpointId)
      ⟨"checkpoint_mission_branch", "checkpoint does not extend the exact mission head"⟩

/-- `validate_checkpoint_advance`. -/
def validateCheckpointAdvance (c : AuthenticatedHeadCheckpointV1) (trust : IntegrityTrustStore)
    (a : AuthenticatedIntegrityDecisionV1) (decisionTrust : IntegrityTrustStore)
    (previousGlobal previousMission :
      Option (AuthenticatedHeadCheckpointV1 × IntegrityTrustStore))
    (floor : HeadCheckpointFloorV1) (policy : IntegrityValidationPolicyV1) :
    Except IntegrityError Unit := do
  reauthenticateTransition I c trust a decisionTrust policy
  requireSeparation c a
  reauthenticatePrevious I policy previousGlobal
  reauthenticatePrevious I policy previousMission
  requireCheckpointProjectionConsistency I (previousGlobal.map Prod.fst)
    (previousMission.map Prod.fst)
  validateCheckpointDecisionSemantics I c.checkpoint a
  let v := c.checkpoint
  refuseIf (floor.serviceInstanceId ≠ v.serviceInstanceId ∨
      floor.environmentId ≠ v.environmentId ∨ floor.missionId ≠ v.missionId)
    ⟨"external_head_floor_scope_mismatch",
      "external head floor belongs to another service scope or mission"⟩
  let globalGenesis := I.headCheckpointGenesisId v.serviceInstanceId v.environmentId
  let missionGenesis := I.missionCheckpointGenesisId v.serviceInstanceId v.environmentId v.missionId
  validateGlobalAdvance I v a.decision (previousGlobal.map Prod.fst) globalGenesis
  validateDecisionMissionPredecessor I v a.decision (previousMission.map Prod.fst)
  validateMissionAdvance v (previousMission.map Prod.fst) missionGenesis
  reconcileExternalFloor I c (previousGlobal.map Prod.fst) (previousMission.map Prod.fst) floor
    globalGenesis missionGenesis

/-- `authenticate_checkpoint_candidate` against a given external floor. -/
def authenticateCheckpointCandidate (p : PendingIntegrityTransitionV1)
    (a : AnchorStatementRecordV1) (c : CheckpointCandidateRecordV1) (e : EventV1)
    (previousGlobal previousMission : Option IntegrityLineageV1) (floor : HeadCheckpointFloorV1) :
    Except IntegrityError AuthenticatedHeadCheckpointV1 := do
  validateAnchorStatementRecord I p a
  refuseIf (c.pendingRecordId ≠ I.pendingRecordId p ∨
      c.anchorStatementRecordId ≠ I.anchorRecordId a ∨ c.eventDigest ≠ e.eventDigest)
    ⟨"checkpoint_candidate_binding_mismatch",
      "checkpoint candidate differs from its retained lineage"⟩
  let decision ← authenticatePendingIntegrityTransition I p e previousGlobal
  let checkpoint ← authenticatedCheckpointSelf I c decision p.validationPolicy
  let global := (← authenticatedPredecessor I previousGlobal).map Prod.snd
  let mission := (← authenticatedPredecessor I previousMission).map Prod.snd
  validateCheckpointBinding I checkpoint c.checkpointTrustStore decision p.decisionTrustStore e
    mission p.validationPolicy
  validateCheckpointAdvance I checkpoint c.checkpointTrustStore decision p.decisionTrustStore
    global mission floor p.validationPolicy
  return checkpoint

/-- `validate_checkpoint_candidate` : the external floor is the dossier's prior one. -/
def validateCheckpointCandidate (e : EventV1) (p : PendingIntegrityTransitionV1)
    (a : AnchorStatementRecordV1) (c : CheckpointCandidateRecordV1)
    (previousGlobal previousMission : Option IntegrityLineageV1) :
    Except IntegrityError AuthenticatedHeadCheckpointV1 :=
  authenticateCheckpointCandidate I p a c e previousGlobal previousMission p.priorHeadFloor

/-- `require_external_floor_is_current`. -/
def requireExternalFloorIsCurrent (c : AuthenticatedHeadCheckpointV1)
    (trust : IntegrityTrustStore) (floor : HeadCheckpointFloorV1)
    (policy : IntegrityValidationPolicyV1) : Except IntegrityError Unit := do
  reauthenticateCheckpointResult I c trust
  validateCheckpointAgainstPolicy c.checkpoint policy
  refuseIf (floor.serviceInstanceId ≠ c.checkpoint.serviceInstanceId ∨
      floor.environmentId ≠ c.checkpoint.environmentId ∨ floor.missionId ≠ c.checkpoint.missionId)
    ⟨"external_head_floor_scope_mismatch",
      "external head floor belongs to another service scope or mission"⟩
  refuseIf (¬(globalFloorMatchesCheckpoint I floor c ∧ missionFloorMatchesCheckpoint I floor c))
    ⟨"external_head_floor_not_current",
      "external global and mission floors must both name the exact current checkpoint"⟩

/-- `validate_finalized_integrity_transition`. -/
def validateFinalizedIntegrityTransition (l : IntegrityLineageV1) (e : EventV1)
    (previousGlobal previousMission : Option IntegrityLineageV1) :
    Except IntegrityError AuthenticatedHeadCheckpointV1 :=
  match l.anchorStatement, l.checkpointCandidate, l.finalization with
  | some a, some c, some f => do
    let authenticated ← authenticateCheckpointCandidate I l.pending a c e previousGlobal
      previousMission f.externalHeadFloor
    requireExternalFloorIsCurrent I authenticated c.checkpointTrustStore f.externalHeadFloor
      l.pending.validationPolicy
    return authenticated
  | _, _, _ => .error ⟨"integrity_finality_incomplete",
      "complete pending, anchor, checkpoint, and finalization records are required"⟩

/-- `validate_finalization`. -/
def validateFinalization (e : EventV1) (l : IntegrityLineageV1)
    (f : FinalizedIntegrityTransitionV1)
    (previousGlobal previousMission : Option IntegrityLineageV1) :
    Except IntegrityError AuthenticatedHeadCheckpointV1 := do
  refuseIf (l.finalization ≠ none)
    ⟨"invalid_finalization_lineage", "finalization requires an exact not-yet-finalized lineage"⟩
  let completed ← IntegrityLineageV1.construct I l.pending l.anchorStatement l.checkpointCandidate
    (some f)
  validateFinalizedIntegrityTransition I completed e previousGlobal previousMission

/-! ## What acceptance gives -/

section Accepted

variable {I} {e : EventV1} {p : PendingIntegrityTransitionV1} {a : AnchorStatementRecordV1}
  {c : CheckpointCandidateRecordV1} {previousGlobal previousMission : Option IntegrityLineageV1}

theorem authenticatePendingIntegrityTransition_event {d : AuthenticatedIntegrityDecisionV1}
    (h : authenticatePendingIntegrityTransition I p e previousGlobal = .ok d) :
    PendingBindsEvent p e := by
  unfold authenticatePendingIntegrityTransition at h
  rw [unit_bind_eq_ok, refuseIf_eq_ok, not_not] at h
  exact h.1

/-- An accepted dossier names the event it was committed with. -/
theorem validatePendingTransition_event {service environment : String}
    {policy : IntegrityValidationPolicyV1}
    (h : validatePendingTransition I e p previousGlobal previousMission service environment
      policy = .ok ()) : PendingBindsEvent p e := by
  unfold validatePendingTransition at h
  rw [unit_bind_eq_ok, bind_eq_ok] at h
  obtain ⟨-, d, hd, -⟩ := h
  exact authenticatePendingIntegrityTransition_event hd

theorem authenticatedCheckpointSelf_signed {d : AuthenticatedIntegrityDecisionV1}
    {policy : IntegrityValidationPolicyV1} {x : AuthenticatedHeadCheckpointV1}
    (h : authenticatedCheckpointSelf I c d policy = .ok x) :
    x.signedCheckpoint = c.signedCheckpoint := by
  unfold authenticatedCheckpointSelf authenticateHeadCheckpoint at h
  rw [bind_eq_ok] at h
  obtain ⟨k, -, h⟩ := h
  rw [unit_bind_eq_ok, unit_bind_eq_ok] at h
  obtain ⟨-, -, h⟩ := h
  rw [← Except.ok.inj h]

theorem authenticatedLineageValues_candidate {l : IntegrityLineageV1}
    {x : AuthenticatedIntegrityDecisionV1 × AuthenticatedHeadCheckpointV1 × IntegrityTrustStore}
    (h : authenticatedLineageValues I l = .ok x) :
    ∃ c, l.checkpointCandidate = some c ∧ x.2.1.checkpoint = c.checkpoint := by
  unfold authenticatedLineageValues at h
  obtain ⟨l', hl, h⟩ := bind_eq_ok.mp h
  obtain ⟨c, hc, h⟩ := orRefuse_bind_eq_ok.mp h
  obtain ⟨-, h⟩ := unit_bind_eq_ok.mp h
  obtain ⟨d, -, h⟩ := bind_eq_ok.mp h
  obtain ⟨y, hy, h⟩ := bind_eq_ok.mp h
  -- The constructor returns the very records it was given.
  have hl' : l'.checkpointCandidate = l.checkpointCandidate := by
    simp only [IntegrityLineageV1.construct, unit_bind_eq_ok] at hl
    rw [← Except.ok.inj hl.2.2.2.2.2]
  refine ⟨c, hl' ▸ hc, ?_⟩
  rw [← Except.ok.inj h]
  exact congrArg SignedHeadCheckpointV1.checkpoint (authenticatedCheckpointSelf_signed hy)

/-- The event of an accepted dossier opens its mission, or follows the event of the
mission predecessor's checkpoint. -/
theorem validatePendingTransition_successor {service environment : String}
    {policy : IntegrityValidationPolicyV1}
    (h : validatePendingTransition I e p previousGlobal previousMission service environment
      policy = .ok ()) :
    (previousMission = none → e.seq = 0) ∧ ∀ l, previousMission = some l →
      ∃ c, l.checkpointCandidate = some c ∧ e.seq = c.checkpoint.eventSeq + 1 := by
  have hbind := validatePendingTransition_event h
  unfold validatePendingTransition at h
  obtain ⟨-, h⟩ := unit_bind_eq_ok.mp h
  obtain ⟨d, -, h⟩ := bind_eq_ok.mp h
  cases previousMission with
  | none =>
    simp only [refuseIf_eq_ok, not_or, not_not] at h
    exact ⟨fun _ => h.1, by simp⟩
  | some l =>
    obtain ⟨x, hx, h⟩ := bind_eq_ok.mp h
    obtain ⟨c, hc, hxc⟩ := authenticatedLineageValues_candidate hx
    simp only [refuseIf_eq_ok, not_or, not_not] at h
    refine ⟨by simp, fun l' hl' => ⟨c, Option.some.inj hl' ▸ hc, ?_⟩⟩
    -- The floor carries the decision's prior sequence, and the decision the event's.
    have h1 := p.head.missionEventSeq
    have h2 := hbind.priorEventSeq
    have h3 := h.1
    rw [hxc] at h3
    unfold PendingIntegrityTransitionV1.decision at h2
    omega

theorem authenticateCheckpointCandidate_eventSeq {floor : HeadCheckpointFloorV1}
    {x : AuthenticatedHeadCheckpointV1}
    (h : authenticateCheckpointCandidate I p a c e previousGlobal previousMission floor = .ok x) :
    c.checkpoint.eventSeq = e.seq := by
  unfold authenticateCheckpointCandidate at h
  obtain ⟨-, h⟩ := unit_bind_eq_ok.mp h
  obtain ⟨-, h⟩ := unit_bind_eq_ok.mp h
  obtain ⟨d, -, h⟩ := bind_eq_ok.mp h
  obtain ⟨y, hy, h⟩ := bind_eq_ok.mp h
  obtain ⟨g, -, h⟩ := bind_eq_ok.mp h
  obtain ⟨m, -, h⟩ := bind_eq_ok.mp h
  obtain ⟨hb, -⟩ := unit_bind_eq_ok.mp h
  simp only [validateCheckpointBinding, unit_bind_eq_ok, refuseIf_eq_ok, not_or, not_not] at hb
  have hseq := hb.2.2.2.2.1.1
  rwa [AuthenticatedHeadCheckpointV1.checkpoint, authenticatedCheckpointSelf_signed hy] at hseq

/-- An accepted checkpoint carries the event's sequence number. -/
theorem validateCheckpointCandidate_eventSeq {x : AuthenticatedHeadCheckpointV1}
    (h : validateCheckpointCandidate I e p a c previousGlobal previousMission = .ok x) :
    c.checkpoint.eventSeq = e.seq :=
  authenticateCheckpointCandidate_eventSeq h

end Accepted

end Etzio
