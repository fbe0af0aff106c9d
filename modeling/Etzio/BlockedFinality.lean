import Etzio.IntegrityValidation

/-!
# Blocked finality

A refused finality attempt leaves a `BlockedFinalityObservationV1` that names the
transition, its highest retained phase and the attempt. A separate recovery authority
answers it with a signed `GovernedRecoveryDecisionV1` : retry, or seal the instance.
`resolveBlockedFinalityV1` is the pure resolver that admission and replay share.

`resolveBlockedFinalityV1_singleton` is why replay may apply the resolver to one
observation at a time : what it accepts against a whole history at the current phase
it accepts against the latest observation alone, at the phase that one names.
-/

open CheckedRun

namespace Etzio

/-- The phases an observation can name, `BLOCKABLE_PHASES_V1`. -/
inductive BlockablePhase
  | localPending
  | anchorStatementReady
  | checkpointCandidateRetained
  deriving DecidableEq, Repr

def BlockablePhase.text : BlockablePhase → String
  | .localPending => "local_pending"
  | .anchorStatementReady => "anchor_statement_ready"
  | .checkpointCandidateRetained => "checkpoint_candidate_retained"

/-- The lineage phase a blockable phase is. -/
def BlockablePhase.lineagePhase : BlockablePhase → LineagePhase
  | .localPending => .localPending
  | .anchorStatementReady => .anchorStatementReady
  | .checkpointCandidateRetained => .checkpointCandidateRetained

/-- `BLOCKED_FINALITY_DISPOSITIONS_V1`. -/
inductive Disposition
  | retryAuthorized
  | instanceSealed
  deriving DecidableEq, Repr

/-- `TrustedRecoveryKeyV1`. -/
structure TrustedRecoveryKeyV1 where
  keyId : KeyId
  principalId : String
  publicKey : BitVec 256
  deriving DecidableEq, Repr

/-- `BlockedFinalityRecoveryProfileV1`. -/
structure BlockedFinalityRecoveryProfileV1 where
  serviceInstanceId : String
  environmentId : String
  authorityBinding : ModeledIntegrityAuthorityBindingV1
  authorityBindingId : Digest
  recoveryKey : TrustedRecoveryKeyV1
  recoveryPolicyId : Digest
  deriving DecidableEq, Repr

/-- `BlockedFinalityObservationV1`. -/
structure BlockedFinalityObservationV1 where
  profileId : Digest
  trustRootId : Digest
  serviceInstanceId : String
  environmentId : String
  missionId : Digest
  authorityId : Digest
  targetId : Digest
  eventDigest : Digest
  eventSeq : ℕ
  instanceSequence : ℕ
  pendingRecordId : Digest
  unresolvedPhase : BlockablePhase
  unresolvedPhaseRecordId : Digest
  blockedOperation : String
  blockedReasonCode : String
  attemptOrdinal : ℕ
  timeBundleId : Digest
  timeLowerBound : ℕ
  timeUpperBound : ℕ
  timePolicyId : Digest
  timeEvidence : List EvidenceReferenceV1
  observationId : Digest
  ordinalPos : 0 < attemptOrdinal
  deriving DecidableEq

/-- `GovernedRecoveryDecisionV1`. -/
structure GovernedRecoveryDecisionV1 where
  profileId : Digest
  trustRootId : Digest
  serviceInstanceId : String
  environmentId : String
  missionId : Digest
  authorityId : Digest
  targetId : Digest
  eventDigest : Digest
  pendingRecordId : Digest
  blockedObservationId : Digest
  unresolvedPhase : BlockablePhase
  unresolvedPhaseRecordId : Digest
  blockedOperation : String
  blockedReasonCode : String
  attemptOrdinal : ℕ
  disposition : Disposition
  recoveryPolicyId : Digest
  recoveryPrincipalId : String
  decisionId : Digest
  deriving DecidableEq, Repr

/-- `SignedGovernedRecoveryDecisionV1`, with its decision bytes decoded. -/
structure SignedGovernedRecoveryDecisionV1 where
  decision : GovernedRecoveryDecisionV1
  keyId : KeyId
  signature : Signature
  deriving DecidableEq, Repr

/-- Hashing, Ed25519 verification and record sizes of the recovery contract. -/
structure RecoveryPrimitives where
  /-- `BlockedFinalityRecoveryProfileV1.profile_id`. -/
  profileId : BlockedFinalityRecoveryProfileV1 → Digest
  /-- Verification of the exact decision bytes under the retained recovery key. -/
  recoverySignatureValid : BitVec 256 → SignedGovernedRecoveryDecisionV1 → Bool
  profileBytes : BlockedFinalityRecoveryProfileV1 → ℕ
  observationBytes : BlockedFinalityObservationV1 → ℕ
  decisionBytes : SignedGovernedRecoveryDecisionV1 → ℕ

variable (I : IntegrityPrimitives) (R : RecoveryPrimitives)

/-- The record a phase of a lineage has retained. -/
def IntegrityLineageV1.phaseRecord (l : IntegrityLineageV1) : BlockablePhase → Option Digest
  | .localPending => some (I.pendingRecordId l.pending)
  | .anchorStatementReady => l.anchorStatement.map I.anchorRecordId
  | .checkpointCandidateRetained => l.checkpointCandidate.map I.candidateRecordId

/-- The observation names this profile and this retained transition. -/
def observationBinds (profile : BlockedFinalityRecoveryProfileV1)
    (o : BlockedFinalityObservationV1) (p : PendingIntegrityTransitionV1) : Prop :=
  o.profileId = R.profileId profile ∧
    o.trustRootId = profile.authorityBinding.trustSnapshotId ∧
    o.serviceInstanceId = profile.serviceInstanceId ∧
    o.environmentId = profile.environmentId ∧ o.missionId = p.missionId ∧
    o.authorityId = p.decision.authorityId ∧ o.targetId = p.decision.targetId ∧
    o.eventDigest = p.eventDigest ∧ o.eventSeq = p.eventSeq ∧
    o.instanceSequence = p.instanceSequence ∧ o.pendingRecordId = I.pendingRecordId p

instance (profile : BlockedFinalityRecoveryProfileV1) (o : BlockedFinalityObservationV1)
    (p : PendingIntegrityTransitionV1) : Decidable (observationBinds I R profile o p) :=
  inferInstanceAs (Decidable (_ ∧ _))

/-- `validate_blocked_observation_lineage_v1`. -/
def validateBlockedObservationLineageV1 (profile : BlockedFinalityRecoveryProfileV1)
    (o : BlockedFinalityObservationV1) (l : IntegrityLineageV1) (requireCurrent : Bool) :
    Except IntegrityError Unit := do
  refuseIf (¬observationBinds I R profile o l.pending)
    ⟨"blocked_observation_binding_mismatch", "the observation names another retained transition"⟩
  refuseIf (l.phaseRecord I o.unresolvedPhase ≠ some o.unresolvedPhaseRecordId)
    ⟨"blocked_observation_binding_mismatch",
      "the observation names no exact retained phase record"⟩
  refuseIf (requireCurrent ∧ o.unresolvedPhase.lineagePhase ≠ l.phase)
    ⟨"blocked_observation_stale", "the observation does not name the highest durable phase"⟩

/-- `authenticate_recovery_decision_v1`. -/
def authenticateRecoveryDecisionV1 (profile : BlockedFinalityRecoveryProfileV1)
    (signed : SignedGovernedRecoveryDecisionV1) :
    Except IntegrityError GovernedRecoveryDecisionV1 := do
  refuseIf (signed.keyId ≠ profile.recoveryKey.keyId)
    ⟨"recovery_key_mismatch", "the signed decision key is not the retained recovery key"⟩
  let binding := profile.authorityBinding
  refuseIf (signed.keyId = binding.decisionKeyId ∨ signed.keyId = binding.checkpointKeyId)
    ⟨"recovery_role_not_separated",
      "an integrity decision or checkpoint key cannot authorize recovery"⟩
  refuseIf (R.recoverySignatureValid profile.recoveryKey.publicKey signed = false)
    ⟨"recovery_signature_invalid",
      "recovery decision signature is invalid for the exact retained bytes"⟩
  let d := signed.decision
  refuseIf (d.profileId ≠ R.profileId profile)
    ⟨"recovery_profile_mismatch", "the decision binds another recovery profile"⟩
  refuseIf (d.trustRootId ≠ binding.trustSnapshotId)
    ⟨"recovery_root_mismatch", "the decision binds another trust snapshot"⟩
  refuseIf (d.serviceInstanceId ≠ profile.serviceInstanceId ∨
      d.environmentId ≠ profile.environmentId)
    ⟨"recovery_scope_mismatch", "the decision binds another service scope"⟩
  refuseIf (d.recoveryPolicyId ≠ profile.recoveryPolicyId)
    ⟨"recovery_policy_mismatch", "the decision binds another recovery policy"⟩
  refuseIf (d.recoveryPrincipalId ≠ profile.recoveryKey.principalId)
    ⟨"recovery_principal_mismatch", "the decision binds another recovery principal"⟩
  refuseIf (d.recoveryPrincipalId = binding.decisionPrincipalId ∨
      d.recoveryPrincipalId = binding.checkpointPrincipalId)
    ⟨"recovery_role_not_separated",
      "an integrity decision or checkpoint principal cannot authorize recovery"⟩
  return d

/-- The decision restates exactly the observation it answers. -/
def decisionRestates (d : GovernedRecoveryDecisionV1) (o : BlockedFinalityObservationV1) : Prop :=
  d.eventDigest = o.eventDigest ∧ d.missionId = o.missionId ∧ d.authorityId = o.authorityId ∧
    d.targetId = o.targetId ∧ d.pendingRecordId = o.pendingRecordId ∧
    d.unresolvedPhase = o.unresolvedPhase ∧
    d.unresolvedPhaseRecordId = o.unresolvedPhaseRecordId ∧
    d.blockedOperation = o.blockedOperation ∧ d.blockedReasonCode = o.blockedReasonCode ∧
    d.attemptOrdinal = o.attemptOrdinal

instance (d : GovernedRecoveryDecisionV1) (o : BlockedFinalityObservationV1) :
    Decidable (decisionRestates d o) :=
  inferInstanceAs (Decidable (_ ∧ _))

/-- `resolve_blocked_finality_v1` of an unsealed instance : the authenticated decision,
which answers the latest retained observation at the current phase. -/
def resolveBlockedFinalityV1 (profile : BlockedFinalityRecoveryProfileV1)
    (retained : List BlockedFinalityObservationV1) (currentPhase : LineagePhase)
    (currentPhaseRecordId : Digest) (signed : SignedGovernedRecoveryDecisionV1) :
    Except IntegrityError GovernedRecoveryDecisionV1 := do
  let latest ← orRefuse retained.getLast?
    ⟨"invalid_blocked_observation",
      "resolution requires a nonempty retained observation history"⟩
  refuseIf (¬retained.Pairwise fun a b => a.attemptOrdinal < b.attemptOrdinal)
    ⟨"blocked_observation_equivocation",
      "retained blocked observations are not a strict ordinal sequence"⟩
  let d ← authenticateRecoveryDecisionV1 R profile signed
  refuseIf (d.blockedObservationId ≠ latest.observationId)
    ⟨"recovery_observation_mismatch",
      "the decision does not answer the latest retained blocked observation"⟩
  refuseIf (¬decisionRestates d latest)
    ⟨"recovery_observation_binding_mismatch",
      "the decision restates a binding the observation does not carry"⟩
  refuseIf (latest.unresolvedPhase.lineagePhase ≠ currentPhase ∨
      latest.unresolvedPhaseRecordId ≠ currentPhaseRecordId)
    ⟨"blocked_observation_stale",
      "the retained observation no longer describes the current lineage phase"⟩
  return d

/-! ## What resolution gives -/

section Resolved

variable {R} {profile : BlockedFinalityRecoveryProfileV1}
  {retained : List BlockedFinalityObservationV1} {phase : LineagePhase} {recordId : Digest}
  {signed : SignedGovernedRecoveryDecisionV1} {d : GovernedRecoveryDecisionV1}

/-- An authenticated decision is the signed one. -/
theorem authenticateRecoveryDecisionV1_decision
    (h : authenticateRecoveryDecisionV1 R profile signed = .ok d) : d = signed.decision := by
  simp only [authenticateRecoveryDecisionV1, unit_bind_eq_ok] at h
  exact (Except.ok.inj h.2.2.2.2.2.2.2.2.2).symm

/-- A resolved decision answers the latest observation, at the current phase. -/
theorem resolveBlockedFinalityV1_eq_ok :
    resolveBlockedFinalityV1 R profile retained phase recordId signed = .ok d ↔
      ∃ latest, retained.getLast? = some latest ∧
        (retained.Pairwise fun a b => a.attemptOrdinal < b.attemptOrdinal) ∧
        authenticateRecoveryDecisionV1 R profile signed = .ok d ∧
        d.blockedObservationId = latest.observationId ∧ decisionRestates d latest ∧
        latest.unresolvedPhase.lineagePhase = phase ∧
        latest.unresolvedPhaseRecordId = recordId := by
  unfold resolveBlockedFinalityV1
  rw [orRefuse_bind_eq_ok]
  refine exists_congr fun latest => and_congr_right fun _ => ?_
  rw [unit_bind_eq_ok, refuseIf_eq_ok, not_not, bind_eq_ok]
  refine and_congr_right fun _ => ?_
  constructor
  · rintro ⟨d', hd, h⟩
    simp only [unit_bind_eq_ok, refuseIf_eq_ok, not_not, not_or] at h
    obtain ⟨hid, hr, ⟨hp, hrec⟩, h⟩ := h
    obtain rfl : d' = d := Except.ok.inj h
    exact ⟨hd, hid, hr, hp, hrec⟩
  · rintro ⟨hd, hid, hr, hp, hrec⟩
    refine ⟨d, hd, ?_⟩
    simp only [unit_bind_eq_ok, refuseIf_eq_ok, not_not, not_or]
    exact ⟨hid, hr, ⟨hp, hrec⟩, rfl⟩

/-- What is accepted against a history is accepted against its latest observation, at
the phase that observation names. -/
theorem resolveBlockedFinalityV1_singleton
    (h : resolveBlockedFinalityV1 R profile retained phase recordId signed = .ok d) :
    ∃ latest, retained.getLast? = some latest ∧
      resolveBlockedFinalityV1 R profile [latest] latest.unresolvedPhase.lineagePhase
        latest.unresolvedPhaseRecordId signed = .ok d := by
  obtain ⟨latest, hl, -, hd, hid, hr, -, -⟩ := resolveBlockedFinalityV1_eq_ok.mp h
  refine ⟨latest, hl, resolveBlockedFinalityV1_eq_ok.mpr ?_⟩
  exact ⟨latest, rfl, List.pairwise_singleton _ _, hd, hid, hr, rfl, rfl⟩

end Resolved

end Etzio
