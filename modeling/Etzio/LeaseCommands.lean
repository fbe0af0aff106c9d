import Etzio.CommandRequests

/-!
# Lease commands

The drafts of the commands that issue, expire, cancel and reassign a verification lease.
A draft finds the event of an earlier call with the same arguments, or checks what the
command requires and builds a new event, with the checks in the source's order and the
source's codes and messages.
-/

open CheckedRun

namespace Etzio

variable (P : Primitives) (W : CommandEnv)

/-! ## Issuance -/

/-- `_matching_existing`. -/
def matchingExisting (r : IssueRequest) (verifierId : String) (expiresAt : ℕ)
    (q : MissionProjection) : Except CommandError (Option CommandOutcome) :=
  match q.final.verificationLeaseEvents.find? fun e =>
    e.createdLease?.map VerificationLeaseV1.candidateId = some r.candidateId with
  | none => .ok none
  | some e => do
    let (lease, trust, snapshotId) ← orRefuse e.leaseGrant? (.raised "event has no lease")
    refuseIf (¬(lease.pocArtifactDigest = r.pocArtifactDigest ∧
        lease.evidenceArtifactDigests = r.evidenceArtifactDigests ∧
        lease.environmentDigest = r.environmentDigest ∧
        lease.effectOracleId = r.effectOracleId ∧ lease.verifierId = verifierId ∧
        lease.verifierKeyId = r.verifierKeyId ∧
        lease.issuanceTrustSnapshotId = P.trustSnapshotId r.verifierTrustStore ∧
        lease.issuedAt = r.decisionTime ∧ lease.expiresAt = expiresAt ∧
        snapshotId = P.trustSnapshotId r.verifierTrustStore ∧ trust = r.verifierTrustStore))
      (CommandError.rejected "candidate_lease_conflict"
        "candidate already has a different verification lease")
    return some { projection := q, event := e, value := .lease lease, replayed := true }

/-- The draft of `issue_modeled_fixture_verification_lease`. -/
def draftIssue (r : IssueRequest) (retained : List EventV1) (q : MissionProjection) :
    Except CommandError Draft := do
  refuseIf q.final.phase.isTerminal
    (CommandError.rejected "mission_terminal"
      "verification lease cannot be issued after mission termination")
  refuseIf (¬q.final.phase.scanned)
    (CommandError.rejected "scan_not_completed"
      "verification lease requires a completed fixture scan")
  let (grant, admission) ← authorityEvidence q "verification leases require"
  refuseIf (lacksVerificationAuthority admission grant)
    (CommandError.rejected "verification_not_authorized"
      "retained admission and grant must authorize modeled fixture verification")
  refuseIf (r.requestedWallclockSeconds > grant.maxWallclockSeconds)
    (CommandError.rejected "requested_wallclock_exceeds_grant"
      "requested verification window exceeds the admitted ceiling")
  let candidateEvent ← orRefuse (candidateEventOf q r.candidateId)
    (CommandError.rejected "candidate_not_retained"
      "candidate_id is absent from canonical mission history")
  let key ← assignedVerifier r.verifierTrustStore r.verifierKeyId "assigned"
  refuseIf (candidateEvent.unit.text = key.verifierId)
    (CommandError.rejected "self_verification"
      "candidate producer cannot verify its own candidate")
  let expiresAt := min (grantDeadline grant admission)
    (r.decisionTime + r.requestedWallclockSeconds)
  refuseIf (r.decisionTime < admission.decisionTime)
    (CommandError.rejected "decision_before_admission"
      "verification issuance cannot precede authority admission")
  refuseIf (r.decisionTime ≥ expiresAt)
    (CommandError.rejected "verification_window_exhausted"
      "no admitted verification time remains")
  match ← matchingExisting P r key.verifierId expiresAt q with
  | some o => return .replay o
  | none =>
    assertHead retained r.expectedHead r.decisionTime "verification issuance time"
    refuseIf (q.final.verificationLeaseEvents.length ≥ grant.maxCandidates)
      (CommandError.rejected "verification_lease_budget_exhausted"
        "verification lease count reached the admitted candidate ceiling")
    let snapshotId := P.trustSnapshotId r.verifierTrustStore
    let lease ← (issueLease P W
      { priorEventDigest := headDigest retained
        bindings :=
          { missionId := q.final.missionId
            authorityId := q.final.authorityId
            targetSnapshotId := q.final.targetId
            candidateId := r.candidateId
            candidateProducerId := candidateEvent.unit.text
            pocArtifactDigest := r.pocArtifactDigest
            evidenceArtifactDigests := r.evidenceArtifactDigests
            environmentDigest := r.environmentDigest
            effectOracleId := r.effectOracleId }
        verifierId := key.verifierId
        verifierKeyId := r.verifierKeyId
        issuedAt := r.decisionTime
        expiresAt := expiresAt
        issuanceTrustSnapshotId := snapshotId }).mapError fun x =>
          CommandError.rejected x.reasonCode x.message
    let e ← createEvent P retained q r.decisionTime
      (.verificationLeaseIssued lease r.verifierTrustStore snapshotId)
    return .propose
      { event := e
        existing := matchingExisting P r key.verifierId expiresAt
        committed := fun c =>
          committedOutcome c.final.verificationLeaseEvents c e "verification lease event"
            leaseValue }

/-! ## Expiry and cancellation -/

/-- The lease and the reason of a disposition event. -/
def EventV1.disposition? (e : EventV1) : Option (Digest × Option String) :=
  match e.payload with
  | .verificationLeaseExpired id => some (id, none)
  | .verificationLeaseCancelled reason id => some (id, some reason)
  | _ => none

/-- `_existing_disposition`, over the events of its kind. -/
def existingDisposition (events : MissionProjection → List EventV1) (r : LeaseRequest)
    (reasonCode : Option String) (q : MissionProjection) :
    Except CommandError (Option CommandOutcome) :=
  match (events q).find? fun e =>
    e.disposition?.map Prod.fst = some r.verificationLeaseId with
  | none => .ok none
  | some e => do
    refuseIf (¬(e.decisionTime = r.decisionTime ∧
        (reasonCode = none ∨ e.disposition?.map Prod.snd = some reasonCode)))
      (CommandError.rejected "verification_lease_disposition_conflict"
        "verification lease already has a different terminal disposition")
    let lease ← leaseById q r.verificationLeaseId
    return some { projection := q, event := e, value := .lease lease, replayed := true }

/-- `_committed_disposition`, over the events of its kind. -/
def committedDisposition (events : MissionProjection → List EventV1) (r : LeaseRequest)
    (e : EventV1) (q : MissionProjection) : Except CommandError CommandOutcome :=
  committedOutcome (events q) q e "recovery event" fun _ => do
    let lease ← leaseById q r.verificationLeaseId
    return .lease lease

/-- The expiry events of a projection. -/
def expiryEvents (q : MissionProjection) : List EventV1 := q.final.verificationLeaseExpiryEvents

/-- The cancellation events of a projection. -/
def cancellationEvents (q : MissionProjection) : List EventV1 :=
  q.final.verificationLeaseCancellationEvents

/-- The draft of `expire_modeled_fixture_verification_lease`. -/
def draftExpire (r : LeaseRequest) (retained : List EventV1) (q : MissionProjection) :
    Except CommandError Draft := do
  let lease ← leaseById q r.verificationLeaseId
  match ← existingDisposition expiryEvents r none q with
  | some o => return .replay o
  | none =>
    let _ ← recoveryAuthority q
    assertAppendable retained q r.expectedHead r.decisionTime
    refuseIf (r.verificationLeaseId ∉ q.final.activeVerificationLeaseIds)
      (CommandError.rejected "verification_lease_inactive"
        "only the active lineage tip can expire")
    refuseIf (r.decisionTime < lease.expiresAt)
      (CommandError.rejected "verification_lease_not_expired"
        "expiry cannot be retained before the lease deadline")
    let e ← createEvent P retained q r.decisionTime
      (.verificationLeaseExpired r.verificationLeaseId)
    return .propose
      { event := e
        existing := existingDisposition expiryEvents r none
        committed := committedDisposition expiryEvents r e }

/-- The draft of `cancel_modeled_fixture_verification_lease`. -/
def draftCancel (r : LeaseRequest) (reasonCode : String) (retained : List EventV1)
    (q : MissionProjection) : Except CommandError Draft := do
  let lease ← leaseById q r.verificationLeaseId
  match ← existingDisposition cancellationEvents r (some reasonCode) q with
  | some o => return .replay o
  | none =>
    let _ ← recoveryAuthority q
    assertAppendable retained q r.expectedHead r.decisionTime
    refuseIf (r.verificationLeaseId ∉ q.final.activeVerificationLeaseIds)
      (CommandError.rejected "verification_lease_inactive"
        "only the active lineage tip can be cancelled")
    refuseIf (r.decisionTime ≥ lease.expiresAt)
      (CommandError.rejected "verification_lease_expiry_not_recorded"
        "an expired lease requires an explicit expiry event, not cancellation")
    let e ← createEvent P retained q r.decisionTime
      (.verificationLeaseCancelled reasonCode r.verificationLeaseId)
    return .propose
      { event := e
        existing := existingDisposition cancellationEvents r (some reasonCode)
        committed := committedDisposition cancellationEvents r e }

/-! ## Reassignment -/

/-- The predecessor a reassignment event names. -/
def EventV1.predecessor? (e : EventV1) : Option Digest :=
  match e.payload with
  | .verificationLeaseReassigned _ predecessorId _ _ _ => some predecessorId
  | _ => none

/-- `_existing_reassignment`. -/
def existingReassignment (r : ReassignRequest) (predecessor : VerificationLeaseV1)
    (expiresAt : ℕ) (q : MissionProjection) : Except CommandError (Option CommandOutcome) :=
  match q.final.verificationLeaseReassignmentEvents.find? fun e =>
    e.predecessor? = some predecessor.leaseId with
  | none => .ok none
  | some e => do
    let (successor, trust, snapshotId) ← orRefuse e.leaseGrant? (.raised "event has no lease")
    refuseIf (¬(e.decisionTime = r.decisionTime ∧ successor.verifierKeyId = r.verifierKeyId ∧
        successor.issuanceTrustSnapshotId = P.trustSnapshotId r.verifierTrustStore ∧
        successor.issuedAt = r.decisionTime ∧ successor.expiresAt = expiresAt ∧
        snapshotId = P.trustSnapshotId r.verifierTrustStore ∧ trust = r.verifierTrustStore))
      (CommandError.rejected "verification_lease_reassignment_conflict"
        "predecessor lease already has a different successor")
    return some { projection := q, event := e, value := .reassignment predecessor successor,
                  replayed := true }

/-- `_reassignment_reason`. -/
def reassignmentReason (q : MissionProjection) (id : Digest) :
    Except CommandError ReassignmentReason :=
  if id ∈ q.final.activeVerificationLeaseIds then .ok .activeLeaseSuperseded
  else if id ∈ q.final.expiredVerificationLeaseIds then .ok .expiredLeaseRecovery
  else if id ∈ q.final.cancelledVerificationLeaseIds then .ok .cancelledLeaseRecovery
  else if id ∈ q.final.consumedVerificationLeaseIds then
    reject "verification_lease_consumed" "a consumed verification lease cannot be reassigned"
  else reject "verification_lease_not_lineage_tip"
    "only the current active, expired, or cancelled lineage tip can be reassigned"

/-- The draft of `reassign_modeled_fixture_verification_lease`. -/
def draftReassign (r : ReassignRequest) (retained : List EventV1) (q : MissionProjection) :
    Except CommandError Draft := do
  let predecessor ← leaseById q r.predecessorVerificationLeaseId
  let (grant, admission) ← recoveryAuthority q
  refuseIf (r.requestedWallclockSeconds > grant.maxWallclockSeconds)
    (CommandError.rejected "requested_wallclock_exceeds_grant"
      "requested successor window exceeds the admitted ceiling")
  let expiresAt := min (grantDeadline grant admission)
    (r.decisionTime + r.requestedWallclockSeconds)
  match ← existingReassignment P r predecessor expiresAt q with
  | some o => return .replay o
  | none =>
    assertAppendable retained q r.expectedHead r.decisionTime
    refuseIf (q.final.latestVerificationLeaseByCandidate.lookup predecessor.candidateId ≠
        some predecessor.leaseId)
      (CommandError.rejected "verification_lease_not_lineage_tip"
        "predecessor is not the candidate's current lineage tip")
    let reason ← reassignmentReason q predecessor.leaseId
    refuseIf (reason = .activeLeaseSuperseded ∧ r.decisionTime ≥ predecessor.expiresAt)
      (CommandError.rejected "verification_lease_expiry_not_recorded"
        "an expired active lease must first receive an explicit expiry event")
    refuseIf (r.decisionTime ≥ expiresAt)
      (CommandError.rejected "verification_window_exhausted"
        "no admitted successor verification time remains")
    refuseIf (q.final.verificationLeaseEvents.length ≥ grant.maxCandidates)
      (CommandError.rejected "verification_lease_budget_exhausted"
        "verification lease count reached the admitted candidate ceiling")
    let key ← assignedVerifier r.verifierTrustStore r.verifierKeyId "successor"
    refuseIf (key.verifierId = predecessor.verifierId)
      (CommandError.rejected "verifier_not_reassigned"
        "successor must assign a different verifier identity")
    refuseIf (predecessor.candidateProducerId = key.verifierId)
      (CommandError.rejected "self_verification"
        "candidate producer cannot verify its own candidate")
    let snapshotId := P.trustSnapshotId r.verifierTrustStore
    let lease ← (issueLease P W
      { priorEventDigest := headDigest retained
        bindings := predecessor.bindings
        verifierId := key.verifierId
        verifierKeyId := r.verifierKeyId
        issuedAt := r.decisionTime
        expiresAt := expiresAt
        issuanceTrustSnapshotId := snapshotId }).mapError fun x =>
          CommandError.rejected x.reasonCode x.message
    let e ← createEvent P retained q r.decisionTime
      (.verificationLeaseReassigned lease predecessor.leaseId reason r.verifierTrustStore
        snapshotId)
    return .propose
      { event := e
        existing := existingReassignment P r predecessor expiresAt
        committed := fun c =>
          committedOutcome c.final.verificationLeaseReassignmentEvents c e "reassignment event"
            fun x => do
              let successor ← orRefuse x.createdLease? (.raised "event has no lease")
              return .reassignment predecessor successor }

end Etzio
