import Mathlib
import Etzio.Receipts

/-!
# The mission reducer

`reduceEvents` rebuilds one mission's projection from its ordered events. `Reduction`
holds the local variables of the source's loop, `step` is one turn of the loop, and the
closing checks and the projection follow the fold. Each event kind has its own function,
with the checks in the source's order and the source's messages.

Python sets are `Finset`s and dicts are association lists with distinct keys (`AList`);
neither the loop nor the projection observes their order.
-/

open CheckedRun

namespace Etzio

/-- The message of a `ReductionError`. -/
abbrev ReductionError := String

/-- The internal phases of the loop. `ProjectionPhase` is all of them but `start`. -/
inductive Phase
  | start
  | admitted
  | «open»
  | analyzing
  | scanCompleted
  | awaitingVerification
  | closed
  | refused
  | failed
  | cancelled
  | timedOut
  | budgetExhausted
  deriving DecidableEq, Repr

/-- The wire name of a phase. -/
def Phase.text : Phase → String
  | .start => "start"
  | .admitted => "admitted"
  | .open => "open"
  | .analyzing => "analyzing"
  | .scanCompleted => "scan_completed"
  | .awaitingVerification => "awaiting_verification"
  | .closed => "closed"
  | .refused => "refused"
  | .failed => "failed"
  | .cancelled => "cancelled"
  | .timedOut => "timed_out"
  | .budgetExhausted => "budget_exhausted"

/-- `_FAILURE_PHASES`. -/
def failurePhases : EventKind → Option Phase
  | .scanFailed => some .failed
  | .scanCancelled => some .cancelled
  | .scanTimedOut => some .timedOut
  | .budgetExhausted => some .budgetExhausted
  | _ => none

/-- The legal transitions. -/
def nextPhase (phase : Phase) (kind : EventKind) : Option Phase :=
  match phase, kind with
  | .start, .authorityAdmitted => some .admitted
  | .start, .missionAdmissionRefused => some .refused
  | .admitted, .missionOpened => some .open
  | .admitted, k => failurePhases k
  | .open, .analysisLeaseIssued => some .analyzing
  | .open, k => failurePhases k
  | .analyzing, .candidateRecorded => some .analyzing
  | .analyzing, .parseFailed => some .analyzing
  | .analyzing, .scanCompleted => some .scanCompleted
  | .analyzing, k => failurePhases k
  | .scanCompleted, .verificationLeaseIssued => some .awaitingVerification
  | .scanCompleted, .missionClosed => some .closed
  | .scanCompleted, k => failurePhases k
  | .awaitingVerification, .verificationLeaseIssued => some .awaitingVerification
  | .awaitingVerification, .verificationLeaseExpired => some .awaitingVerification
  | .awaitingVerification, .verificationLeaseCancelled => some .awaitingVerification
  | .awaitingVerification, .verificationLeaseReassigned => some .awaitingVerification
  | .awaitingVerification, .verificationArtifactsResolved => some .awaitingVerification
  | .awaitingVerification, .verifierReceiptAdmitted => some .awaitingVerification
  | .awaitingVerification, .missionClosed => some .closed
  | _, _ => none

/-- `_transition`. -/
def transition (phase : Phase) (kind : EventKind) : Except ReductionError Phase :=
  orRefuse (nextPhase phase kind)
    ("illegal event transition: " ++ phase.text ++ " -> " ++ kind.text)

/-- `PYTHON_SAST_VERSION`. -/
def pythonSastVersion : String := "python_ast.v1"

/-- `MAX_TYPED_VERIFICATION_INPUT_BYTES_V1`. -/
def maxTypedVerificationInputBytesV1 : ℕ := 64 * 1024 * 1024

/-- `MAX_RESOLUTION_ARTIFACT_BYTES_V1`. -/
def maxResolutionArtifactBytesV1 : ℕ := 128 * 1024 * 1024

/-! ## Candidate partitions -/

/-- The five candidate classes `_verification_candidate_partitions` returns. -/
structure CandidatePartitions where
  active : Finset Digest
  receiptCovered : Finset Digest
  neverAssigned : Finset Digest
  latestExpired : Finset Digest
  latestCancelled : Finset Digest

/-- The parts in the source's order. -/
def CandidatePartitions.parts (p : CandidatePartitions) : List (Finset Digest) :=
  [p.active, p.receiptCovered, p.neverAssigned, p.latestExpired, p.latestCancelled]

/-- A dict from content identifiers. -/
abbrev Dict (V : Type) := AList fun _ : Digest => V

/-- One turn of the loop over `latest_lease_by_candidate.items()`. -/
def partitionStep (active consumed expired cancelled : Finset Digest)
    (p : CandidatePartitions) (item : Σ _ : Digest, Digest) :
    Except ReductionError CandidatePartitions := do
  let states := [decide (item.2 ∈ active), decide (item.2 ∈ consumed),
    decide (item.2 ∈ expired), decide (item.2 ∈ cancelled)]
  refuseIf (states.count true ≠ 1)
    "candidate latest verification lease lacks one terminal or active state"
  return if item.2 ∈ active then { p with active := insert item.1 p.active }
    else if item.2 ∈ consumed then { p with receiptCovered := insert item.1 p.receiptCovered }
    else if item.2 ∈ expired then { p with latestExpired := insert item.1 p.latestExpired }
    else { p with latestCancelled := insert item.1 p.latestCancelled }

/-- `_verification_candidate_partitions`. -/
def verificationCandidatePartitions (candidateIds : Finset Digest) (latest : Dict Digest)
    (active consumed expired cancelled : Finset Digest) :
    Except ReductionError CandidatePartitions := do
  refuseIf (¬latest.keys.toFinset ⊆ candidateIds)
    "verification lease lineage references an unknown candidate"
  let p ← latest.entries.foldlM (partitionStep active consumed expired cancelled)
    { active := ∅, receiptCovered := ∅, neverAssigned := candidateIds \ latest.keys.toFinset,
      latestExpired := ∅, latestCancelled := ∅ }
  refuseIf (p.parts.foldr (· ∪ ·) ∅ ≠ candidateIds ∨
      (p.parts.map Finset.card).sum ≠ candidateIds.card)
    "verification candidate states are not an exhaustive partition"
  return p

/-! ## The loop state -/

/-- The local variables of `reduce_events`. -/
structure Reduction where
  missionId : Digest
  authorityId : Digest
  targetId : Digest
  expectedSeq : ℕ
  expectedPrev : Digest
  previousDecisionTime : Option ℕ
  phase : Phase
  candidates : List EventV1
  failures : List EventV1
  candidateIds : Finset Digest
  candidateEventsById : Dict EventV1
  verificationLeaseEvents : List EventV1
  verificationLeaseExpiryEvents : List EventV1
  verificationLeaseCancellationEvents : List EventV1
  verificationLeaseReassignmentEvents : List EventV1
  verificationArtifactResolutionEvents : List EventV1
  verificationReceiptAdmissionEvents : List EventV1
  verificationLeaseIds : Finset Digest
  verificationLeasesById : Dict VerificationLeaseV1
  latestVerificationLeaseByCandidate : Dict Digest
  verificationLeaseSuccessors : Dict Digest
  verificationResolutionsByLeaseId : Dict VerificationArtifactResolutionV1
  resolvedVerificationLeaseIds : Finset Digest
  activeVerificationLeaseIds : Finset Digest
  expiredVerificationLeaseIds : Finset Digest
  cancelledVerificationLeaseIds : Finset Digest
  supersededVerificationLeaseIds : Finset Digest
  consumedVerificationLeaseIds : Finset Digest
  admittedVerifierReceiptIds : Finset Digest
  admittedGrant : Option AuthorityGrantV1
  admittedAdmission : Option AuthorityAdmissionV1
  targetSnapshot : Option TargetSnapshotV1
  analysisLease : Option AnalysisLeaseV1
  refusal : Option EventV1
  failure : Option EventV1
  scanSummary : Option EventV1
  terminal : Option EventV1

/-- The variables before the loop, with the identities of the first event. -/
def Reduction.initial (first : EventV1) : Reduction where
  missionId := first.missionId
  authorityId := first.authorityId
  targetId := first.targetId
  expectedSeq := 0
  expectedPrev := genesisDigest
  previousDecisionTime := none
  phase := .start
  candidates := []
  failures := []
  candidateIds := ∅
  candidateEventsById := ∅
  verificationLeaseEvents := []
  verificationLeaseExpiryEvents := []
  verificationLeaseCancellationEvents := []
  verificationLeaseReassignmentEvents := []
  verificationArtifactResolutionEvents := []
  verificationReceiptAdmissionEvents := []
  verificationLeaseIds := ∅
  verificationLeasesById := ∅
  latestVerificationLeaseByCandidate := ∅
  verificationLeaseSuccessors := ∅
  verificationResolutionsByLeaseId := ∅
  resolvedVerificationLeaseIds := ∅
  activeVerificationLeaseIds := ∅
  expiredVerificationLeaseIds := ∅
  cancelledVerificationLeaseIds := ∅
  supersededVerificationLeaseIds := ∅
  consumedVerificationLeaseIds := ∅
  admittedVerifierReceiptIds := ∅
  admittedGrant := none
  admittedAdmission := none
  targetSnapshot := none
  analysisLease := none
  refusal := none
  failure := none
  scanSummary := none
  terminal := none

variable (P : Primitives)

/-- The checks every event passes before its kind is looked at. -/
def checkHeader (s : Reduction) (e : EventV1) : Except ReductionError Unit := do
  (e.verify P).mapError fun m => s!"invalid event at sequence {s.expectedSeq}: {m}"
  refuseIf (e.seq ≠ s.expectedSeq)
    s!"event sequence gap or fork: expected {s.expectedSeq}, got {e.seq}"
  refuseIf (e.prevDigest ≠ s.expectedPrev) s!"predecessor mismatch at sequence {s.expectedSeq}"
  refuseIf (e.missionId ≠ s.missionId) "cross-mission event in reducer input"
  refuseIf (e.authorityId ≠ s.authorityId) "authority identity changed within mission stream"
  refuseIf (e.targetId ≠ s.targetId) "target identity changed within mission stream"
  refuseIf (∃ t ∈ s.previousDecisionTime, e.decisionTime < t)
    s!"decision_time regressed at sequence {s.expectedSeq}"

/-! ## Admission and analysis -/

def applyAuthorityAdmitted (s : Reduction) (admission : AuthorityAdmissionV1)
    (grant : AuthorityGrantV1) : Except ReductionError Reduction := do
  refuseIf (Action.staticAnalysis ∉ admission.requiredActions ∨
      Action.staticAnalysis ∉ grant.permittedActions)
    "admitted authority does not permit exact static_analysis"
  return { s with admittedGrant := some grant, admittedAdmission := some admission }

def applyAnalysisLeaseIssued (s : Reduction) (e : EventV1) (lease : AnalysisLeaseV1) :
    Except ReductionError Reduction := do
  let grant ← orRefuse s.admittedGrant "analysis lease has no admitted authority grant"
  let admission ← orRefuse s.admittedAdmission
    "analysis lease lacks admitted static_analysis authority"
  refuseIf (Action.staticAnalysis ∉ admission.requiredActions ∨
      Action.staticAnalysis ∉ grant.permittedActions ∨ lease.action ≠ .staticAnalysis)
    "analysis lease lacks admitted static_analysis authority"
  refuseIf (lease.expiresAt > grant.expiresAt ∨ lease.maxBytes > grant.maxBytes ∨
      lease.maxCandidates > grant.maxCandidates ∨
      lease.maxWallclockSeconds > grant.maxWallclockSeconds)
    "analysis lease exceeds the admitted authority grant"
  refuseIf (lease.expiresAt > lease.issuedAt + lease.maxWallclockSeconds)
    "analysis lease expiry exceeds its wallclock ceiling"
  let snapshot ← orRefuse s.targetSnapshot "analysis lease has no retained target snapshot"
  refuseIf (snapshot.totalBytes > lease.maxBytes)
    "analysis lease byte budget is smaller than the target snapshot"
  refuseIf (¬(lease.issuedAt ≤ e.decisionTime ∧ e.decisionTime < lease.expiresAt))
    "analysis lease issuance event is outside the lease window"
  return { s with analysisLease := some lease }

/-- The budget and source checks that candidates and parse failures share. The messages
name the output : `candidate` and `parse failure` for refusals of the record itself,
`candidate` and `parse-failure` for its source artifact. -/
def checkAnalysisOutput (s : Reduction) (e : EventV1) (what source : String)
    (analysisLeaseId : Digest) (path : String) (sourceDigest : Digest) :
    Except ReductionError Unit := do
  let lease ← orRefuse s.analysisLease (what ++ " has no admitted analysis lease")
  refuseIf (analysisLeaseId ≠ lease.leaseId)
    (what ++ " does not reference the admitted analysis lease")
  refuseIf ((e.decisionTime : ℤ) - lease.issuedAt > lease.maxWallclockSeconds)
    (what ++ " exceeded the retained epoch wallclock ceiling")
  refuseIf (¬(lease.issuedAt ≤ e.decisionTime ∧ e.decisionTime < lease.expiresAt))
    (what ++ " was recorded outside the lease window")
  refuseIf (s.candidates.length + s.failures.length + 1 > lease.maxCandidates)
    (what ++ " exceeded the analysis output budget")
  let snapshot ← orRefuse s.targetSnapshot (what ++ " has no retained target snapshot")
  refuseIf (snapshot.artifactAt path ≠ some sourceDigest)
    (source ++ " source artifact is absent from the target snapshot")

def applyCandidateRecorded (s : Reduction) (e : EventV1) (c : StaticCandidateV1) :
    Except ReductionError Reduction := do
  refuseIf (c.candidateId ∈ s.candidateIds) "duplicate candidate identity in mission stream"
  checkAnalysisOutput s e "candidate" "candidate" c.analysisLeaseId c.relativePath
    c.sourceArtifactDigest
  return { s with
    candidateIds := insert c.candidateId s.candidateIds
    candidateEventsById := s.candidateEventsById.insert c.candidateId e
    candidates := s.candidates ++ [e] }

def applyParseFailed (s : Reduction) (e : EventV1) (analysisLeaseId : Digest)
    (failure : ParseFailure) (sourceDigest : Digest) : Except ReductionError Reduction := do
  checkAnalysisOutput s e "parse failure" "parse-failure" analysisLeaseId failure.relativePath
    sourceDigest
  return { s with failures := s.failures ++ [e] }

def applyScanCompleted (s : Reduction) (e : EventV1) (analyzerVersion : String)
    (bytesScanned candidateCount fileCount parseFailureCount : ℕ) :
    Except ReductionError Reduction := do
  let lease ← orRefuse s.analysisLease
    "scan_completed requires a retained target and analysis lease"
  let snapshot ← orRefuse s.targetSnapshot
    "scan_completed requires a retained target and analysis lease"
  refuseIf (¬(lease.issuedAt ≤ e.decisionTime ∧ e.decisionTime < lease.expiresAt))
    "scan_completed is outside the lease window"
  refuseIf (candidateCount ≠ s.candidates.length)
    "scan_completed candidate_count does not match retained candidates"
  refuseIf (parseFailureCount ≠ s.failures.length)
    "scan_completed parse_failure_count does not match retained failures"
  refuseIf (fileCount ≠ snapshot.files.length)
    "scan_completed file_count does not match the target snapshot"
  refuseIf (bytesScanned ≠ snapshot.totalBytes)
    "scan_completed bytes_scanned does not match the target snapshot"
  refuseIf (analyzerVersion ≠ pythonSastVersion) "scan_completed analyzer_version is unsupported"
  refuseIf (bytesScanned > lease.maxBytes ∨
      s.candidates.length + s.failures.length > lease.maxCandidates ∨
      (e.decisionTime : ℤ) - lease.issuedAt > lease.maxWallclockSeconds)
    "scan_completed exceeds its analysis lease"
  return { s with scanSummary := some e }

/-! ## Verification leases -/

/-- `grant_deadline`. -/
def grantDeadline (grant : AuthorityGrantV1) (admission : AuthorityAdmissionV1) : ℕ :=
  min grant.expiresAt (admission.decisionTime + grant.maxWallclockSeconds)

/-- The trust snapshot holds an unrevoked verifier key of the lease's verifier, and the
lease binds that snapshot. -/
def eligibleVerifier (trust : VerifierTrustStore) (snapshotId : Digest)
    (lease : VerificationLeaseV1) : Bool :=
  match trust.key lease.verifierKeyId with
  | none => false
  | some k =>
    lease.verifierKeyId ∉ trust.revokedKeyIds && verifierRole ∈ k.roles &&
      k.verifierId == lease.verifierId && lease.issuanceTrustSnapshotId == snapshotId

/-- Retain a new lease as the latest, active lease of its candidate. -/
def Reduction.addLease (s : Reduction) (e : EventV1) (lease : VerificationLeaseV1) : Reduction :=
  { s with
    verificationLeaseIds := insert lease.leaseId s.verificationLeaseIds
    verificationLeasesById := s.verificationLeasesById.insert lease.leaseId lease
    activeVerificationLeaseIds := insert lease.leaseId s.activeVerificationLeaseIds
    latestVerificationLeaseByCandidate :=
      s.latestVerificationLeaseByCandidate.insert lease.candidateId lease.leaseId
    verificationLeaseEvents := s.verificationLeaseEvents ++ [e] }

/-- The lease lacks the retained mission's identities or the candidate's producer. -/
def Reduction.foreignLease (s : Reduction) (lease : VerificationLeaseV1)
    (candidateEvent : EventV1) : Prop :=
  lease.missionId ≠ s.missionId ∨ lease.authorityId ≠ s.authorityId ∨
    lease.targetSnapshotId ≠ s.targetId ∨ lease.candidateProducerId ≠ candidateEvent.unit.text

instance (s : Reduction) (l : VerificationLeaseV1) (c : EventV1) :
    Decidable (s.foreignLease l c) :=
  inferInstanceAs (Decidable (_ ∨ _))

/-- The admitted authority does not cover `modeled_fixture_verification`. -/
def lacksVerificationAuthority (admission : AuthorityAdmissionV1) (grant : AuthorityGrantV1) :
    Prop :=
  Action.modeledFixtureVerification ∉ admission.requiredActions ∨
    Action.modeledFixtureVerification ∉ grant.permittedActions

instance (a : AuthorityAdmissionV1) (g : AuthorityGrantV1) :
    Decidable (lacksVerificationAuthority a g) :=
  inferInstanceAs (Decidable (_ ∨ _))

/-- The lease window is nonempty and inside the admitted authority. -/
def insideAuthority (admission : AuthorityAdmissionV1) (grant : AuthorityGrantV1)
    (lease : VerificationLeaseV1) : Prop :=
  admission.decisionTime ≤ lease.issuedAt ∧ lease.issuedAt < lease.expiresAt ∧
    lease.expiresAt ≤ grantDeadline grant admission

instance (a : AuthorityAdmissionV1) (g : AuthorityGrantV1) (l : VerificationLeaseV1) :
    Decidable (insideAuthority a g l) :=
  inferInstanceAs (Decidable (_ ∧ _))

def applyVerificationLeaseIssued (s : Reduction) (e : EventV1) (lease : VerificationLeaseV1)
    (trust : VerifierTrustStore) (snapshotId : Digest) : Except ReductionError Reduction := do
  let grant ← orRefuse s.admittedGrant "verification lease has no admitted authority evidence"
  let admission ← orRefuse s.admittedAdmission
    "verification lease has no admitted authority evidence"
  refuseIf (lacksVerificationAuthority admission grant)
    "verification lease lacks admitted modeled_fixture_verification authority"
  let candidateEvent ← orRefuse (s.candidateEventsById.lookup lease.candidateId)
    "verification lease references no retained candidate"
  refuseIf (s.foreignLease lease candidateEvent)
    "verification lease differs from retained mission bindings"
  refuseIf (lease.issuedAt ≠ e.decisionTime) "verification lease issued_at differs from its event"
  refuseIf (¬insideAuthority admission grant lease)
    "verification lease exceeds the admitted authority window"
  refuseIf (lease.candidateProducerId = lease.verifierId)
    "verification lease assigns the candidate producer"
  refuseIf (eligibleVerifier trust snapshotId lease = false)
    "verification lease lacks an eligible retained verifier"
  refuseIf (lease.leaseId ∈ s.verificationLeaseIds)
    "duplicate verification lease identity in mission stream"
  refuseIf (lease.candidateId ∈ s.latestVerificationLeaseByCandidate)
    "plain issuance requires a never-assigned verification candidate"
  refuseIf (s.verificationLeaseEvents.length + 1 > grant.maxCandidates)
    "verification lease count exceeds the admitted candidate ceiling"
  return s.addLease e lease

def applyVerificationLeaseExpired (s : Reduction) (e : EventV1) (leaseId : Digest) :
    Except ReductionError Reduction := do
  let lease ← orRefuse (s.verificationLeasesById.lookup leaseId)
    "verification lease expiry references no prior lease"
  refuseIf (s.latestVerificationLeaseByCandidate.lookup lease.candidateId ≠ some lease.leaseId)
    "verification lease expiry must reference the candidate's latest lease"
  refuseIf (lease.leaseId ∉ s.activeVerificationLeaseIds)
    "verification lease expiry requires one active lease"
  refuseIf (e.decisionTime < lease.expiresAt)
    "verification lease cannot expire before its retained deadline"
  return { s with
    activeVerificationLeaseIds := s.activeVerificationLeaseIds.erase lease.leaseId
    expiredVerificationLeaseIds := insert lease.leaseId s.expiredVerificationLeaseIds
    verificationLeaseExpiryEvents := s.verificationLeaseExpiryEvents ++ [e] }

def applyVerificationLeaseCancelled (s : Reduction) (e : EventV1) (reasonCode : String)
    (leaseId : Digest) : Except ReductionError Reduction := do
  let lease ← orRefuse (s.verificationLeasesById.lookup leaseId)
    "verification lease cancellation references no prior lease"
  refuseIf (reasonCode ≠ verificationLeaseCancellationReasonV1)
    "verification lease cancellation reason is unsupported"
  refuseIf (s.latestVerificationLeaseByCandidate.lookup lease.candidateId ≠ some lease.leaseId)
    "verification lease cancellation must reference the candidate's latest lease"
  refuseIf (lease.leaseId ∉ s.activeVerificationLeaseIds)
    "verification lease cancellation requires one active lease"
  refuseIf (¬(lease.issuedAt ≤ e.decisionTime ∧ e.decisionTime < lease.expiresAt))
    "verification lease cancellation is outside the active lease window"
  return { s with
    activeVerificationLeaseIds := s.activeVerificationLeaseIds.erase lease.leaseId
    cancelledVerificationLeaseIds := insert lease.leaseId s.cancelledVerificationLeaseIds
    verificationLeaseCancellationEvents := s.verificationLeaseCancellationEvents ++ [e] }

/-- The disposition of the predecessor of a reassignment : an active one moves to the
superseded set, an expired or cancelled one keeps its set, and each has its own reason
code. -/
def supersedePredecessor (s : Reduction) (e : EventV1) (predecessor : VerificationLeaseV1)
    (reason : ReassignmentReason) : Except ReductionError Reduction :=
  if predecessor.leaseId ∈ s.activeVerificationLeaseIds then do
    refuseIf (e.decisionTime ≥ predecessor.expiresAt)
      "expired active lease requires canonical expiry before reassignment"
    refuseIf (reason ≠ .activeLeaseSuperseded)
      "active verification lease reassignment reason is unsupported"
    return { s with
      activeVerificationLeaseIds := s.activeVerificationLeaseIds.erase predecessor.leaseId
      supersededVerificationLeaseIds :=
        insert predecessor.leaseId s.supersededVerificationLeaseIds }
  else if predecessor.leaseId ∈ s.expiredVerificationLeaseIds then do
    refuseIf (reason ≠ .expiredLeaseRecovery)
      "expired verification lease reassignment reason is unsupported"
    return s
  else if predecessor.leaseId ∈ s.cancelledVerificationLeaseIds then do
    refuseIf (reason ≠ .cancelledLeaseRecovery)
      "cancelled verification lease reassignment reason is unsupported"
    return s
  else .error "verification lease predecessor cannot be reassigned from its disposition"

def applyVerificationLeaseReassigned (s : Reduction) (e : EventV1) (lease : VerificationLeaseV1)
    (predecessorId : Digest) (reason : ReassignmentReason) (trust : VerifierTrustStore)
    (snapshotId : Digest) : Except ReductionError Reduction := do
  let predecessor ← orRefuse (s.verificationLeasesById.lookup predecessorId)
    "verification lease reassignment references no predecessor"
  refuseIf (s.latestVerificationLeaseByCandidate.lookup predecessor.candidateId ≠
      some predecessor.leaseId)
    "verification lease reassignment requires the candidate's latest lease"
  refuseIf (predecessor.leaseId ∈ s.verificationLeaseSuccessors)
    "verification lease predecessor already has a successor"
  let grant ← orRefuse s.admittedGrant
    "verification lease reassignment has no admitted authority evidence"
  let admission ← orRefuse s.admittedAdmission
    "verification lease reassignment has no admitted authority evidence"
  refuseIf (lacksVerificationAuthority admission grant)
    "verification lease reassignment lacks admitted modeled_fixture_verification authority"
  let candidateEvent ← orRefuse (s.candidateEventsById.lookup predecessor.candidateId)
    "verification lease predecessor references no retained candidate"
  refuseIf (lease.bindings ≠ predecessor.bindings)
    "verification lease reassignment changed immutable work bindings"
  refuseIf (s.foreignLease lease candidateEvent)
    "reassigned verification lease differs from retained mission bindings"
  refuseIf (lease.issuedAt ≠ e.decisionTime)
    "reassigned verification lease issued_at differs from its event"
  refuseIf (¬insideAuthority admission grant lease)
    "reassigned verification lease exceeds the admitted authority window"
  refuseIf (lease.candidateProducerId = lease.verifierId)
    "reassigned verification lease assigns the candidate producer"
  refuseIf (lease.verifierId = predecessor.verifierId)
    "verification lease reassignment requires a different verifier"
  refuseIf (eligibleVerifier trust snapshotId lease = false ∨
      lease.leaseId ∈ trust.revokedLeaseIds)
    "reassigned verification lease lacks an eligible retained verifier"
  refuseIf (lease.leaseNonce ≠ P.leaseNonce (lease.nonceInputs e.prevDigest))
    "reassigned verification lease nonce is not kernel-derived"
  refuseIf (lease.leaseId ∈ s.verificationLeaseIds)
    "duplicate verification lease identity in mission stream"
  refuseIf (s.verificationLeaseEvents.length + 1 > grant.maxCandidates)
    "verification lease count exceeds the admitted candidate ceiling"
  let s ← supersedePredecessor s e predecessor reason
  let s := s.addLease e lease
  return { s with
    verificationLeaseSuccessors :=
      s.verificationLeaseSuccessors.insert predecessor.leaseId lease.leaseId
    verificationLeaseReassignmentEvents := s.verificationLeaseReassignmentEvents ++ [e] }

/-! ## Resolution and receipts -/

/-- The resolution's target bindings are the retained snapshot's files, in order. -/
def sameTargets (r : VerificationArtifactResolutionV1) (t : TargetSnapshotV1) : Prop :=
  (r.targetArtifacts.map fun b => (b.artifactDigest, b.relativePath, b.size)) =
    t.files.map fun f => (f.artifactDigest, f.relativePath, f.size)

instance (r : VerificationArtifactResolutionV1) (t : TargetSnapshotV1) :
    Decidable (sameTargets r t) :=
  inferInstanceAs (Decidable (_ = _))

/-- The resolution's typed artifacts are the lease's. -/
def sameArtifacts (r : VerificationArtifactResolutionV1) (l : VerificationLeaseV1) : Prop :=
  r.pocArtifact.artifactDigest = l.pocArtifactDigest ∧
    r.environmentArtifact.artifactDigest = l.environmentDigest ∧
    r.effectOracleArtifact.artifactDigest = l.effectOracleId ∧
    r.evidenceArtifacts.map VerificationArtifactBindingV1.artifactDigest =
      l.evidenceArtifactDigests

instance (r : VerificationArtifactResolutionV1) (l : VerificationLeaseV1) :
    Decidable (sameArtifacts r l) :=
  inferInstanceAs (Decidable (_ ∧ _))

def applyVerificationArtifactsResolved (s : Reduction) (e : EventV1)
    (r : VerificationArtifactResolutionV1) : Except ReductionError Reduction := do
  let lease ← orRefuse (s.verificationLeasesById.lookup r.verificationLeaseId)
    "artifact resolution references no prior verification lease"
  refuseIf (lease.leaseId ∉ s.activeVerificationLeaseIds ∨
      s.latestVerificationLeaseByCandidate.lookup lease.candidateId ≠ some lease.leaseId)
    "artifact resolution requires the candidate's active latest lease"
  refuseIf (r.verificationLeaseId ∈ s.resolvedVerificationLeaseIds)
    "verification lease already has an artifact resolution"
  refuseIf (r.missionId ≠ s.missionId ∨ r.authorityId ≠ s.authorityId ∨
      r.targetSnapshotId ≠ s.targetId ∨ r.candidateId ≠ lease.candidateId)
    "artifact resolution differs from retained mission bindings"
  refuseIf (r.resolvedAt ≠ e.decisionTime) "artifact resolution time differs from its event"
  refuseIf (¬(lease.issuedAt ≤ r.resolvedAt ∧ r.resolvedAt < lease.expiresAt))
    "artifact resolution is outside the verification lease window"
  let snapshot ← orRefuse s.targetSnapshot "artifact resolution has no retained target snapshot"
  refuseIf (¬sameTargets r snapshot)
    "artifact resolution target bindings differ from the retained snapshot"
  refuseIf (¬sameArtifacts r lease)
    "artifact resolution differs from verification lease artifacts"
  let grant ← orRefuse s.admittedGrant "artifact resolution has no admitted authority grant"
  refuseIf (r.totalBytes > grant.maxBytes ∨
      r.typedInputBytes > maxTypedVerificationInputBytesV1 ∨
      r.totalBytes > maxResolutionArtifactBytesV1)
    "artifact resolution exceeds the admitted byte ceiling"
  return { s with
    resolvedVerificationLeaseIds := insert r.verificationLeaseId s.resolvedVerificationLeaseIds
    verificationResolutionsByLeaseId :=
      s.verificationResolutionsByLeaseId.insert r.verificationLeaseId r
    verificationArtifactResolutionEvents := s.verificationArtifactResolutionEvents ++ [e] }

def applyVerifierReceiptAdmitted (s : Reduction) (e : EventV1) (profile : String)
    (trust : VerifierTrustStore) (snapshotId : Digest) (signed : SignedVerifierReceiptV1)
    (outputs : VerificationOutputArtifactsV1) : Except ReductionError Reduction := do
  refuseIf (profile ≠ receiptAdmissionProfileV1)
    "verifier receipt admission uses an unsupported profile"
  let receipt := signed.receipt
  let lease ← orRefuse (s.verificationLeasesById.lookup receipt.leaseId)
    "verifier receipt references no prior verification lease"
  refuseIf (receipt.leaseId ∈ s.consumedVerificationLeaseIds)
    "verification lease is already consumed"
  refuseIf (lease.leaseId ∉ s.activeVerificationLeaseIds ∨
      s.latestVerificationLeaseByCandidate.lookup lease.candidateId ≠ some lease.leaseId)
    "verifier receipt requires the candidate's active latest lease"
  let resolution ← orRefuse (s.verificationResolutionsByLeaseId.lookup receipt.leaseId)
    "verifier receipt references a lease without a prior artifact resolution"
  refuseIf (receipt.receiptId ∈ s.admittedVerifierReceiptIds)
    "verifier receipt is already admitted"
  let authenticated ← (authenticateVerifierReceipt P signed trust lease resolution
    e.decisionTime).mapError fun x =>
      "verifier receipt admission failed authentication: " ++ x.message
  let outputs ← outputs.construct.mapError fun x =>
    "verifier receipt admission failed authentication: " ++ x.message
  refuseIf (authenticated.decisionTrustSnapshotId ≠ snapshotId)
    "receipt authentication used a different decision trust snapshot"
  refuseIf (outputsDiffer outputs authenticated.receipt)
    "receipt output bindings differ from the signed receipt"
  let grant ← orRefuse s.admittedGrant
    "verifier receipt admission has no admitted authority grant"
  refuseIf (resolution.totalBytes + outputs.totalBytes > grant.maxBytes)
    "receipt artifacts exceed the admitted byte ceiling"
  return { s with
    activeVerificationLeaseIds := s.activeVerificationLeaseIds.erase receipt.leaseId
    consumedVerificationLeaseIds := insert receipt.leaseId s.consumedVerificationLeaseIds
    admittedVerifierReceiptIds := insert receipt.receiptId s.admittedVerifierReceiptIds
    verificationReceiptAdmissionEvents := s.verificationReceiptAdmissionEvents ++ [e] }

/-! ## Closing -/

/-- `verification_intent` : the admission requires `modeled_fixture_verification`. -/
def Reduction.verificationIntent (s : Reduction) : Prop :=
  ∃ a ∈ s.admittedAdmission, Action.modeledFixtureVerification ∈ a.requiredActions

instance (s : Reduction) : Decidable s.verificationIntent :=
  inferInstanceAs (Decidable (∃ a ∈ s.admittedAdmission, _))

/-- `_verification_candidate_partitions` of the loop's sets. -/
def Reduction.partitions (s : Reduction) : Except ReductionError CandidatePartitions :=
  verificationCandidatePartitions s.candidateIds s.latestVerificationLeaseByCandidate
    s.activeVerificationLeaseIds s.consumedVerificationLeaseIds s.expiredVerificationLeaseIds
    s.cancelledVerificationLeaseIds

/-- No verification event of any of the six kinds was retained. -/
def Reduction.noVerificationEvents (s : Reduction) : Prop :=
  s.verificationLeaseEvents = [] ∧ s.verificationLeaseExpiryEvents = [] ∧
    s.verificationLeaseCancellationEvents = [] ∧ s.verificationLeaseReassignmentEvents = [] ∧
    s.verificationArtifactResolutionEvents = [] ∧ s.verificationReceiptAdmissionEvents = []

instance (s : Reduction) : Decidable s.noVerificationEvents :=
  inferInstanceAs (Decidable (_ ∧ _))

/-- The status checks of `mission_closed`. -/
def checkClosedStatus (s : Reduction) (status : ClosedStatus) : Except ReductionError Unit :=
  if s.verificationIntent then do
    let p ← s.partitions
    refuseIf (s.activeVerificationLeaseIds ≠ ∅ ∨ p.active ≠ ∅)
      "verification mission cannot close with an active lease"
    let expected : ClosedStatus :=
      if p.receiptCovered = s.candidateIds then .receiptCoverageComplete
      else .receiptCoverageIncomplete
    refuseIf (status ≠ expected ∧
        ¬(status = .completed ∧ s.candidateIds = ∅ ∧ s.noVerificationEvents))
      ("verification mission cannot close with a status that " ++
        "differs from retained receipt coverage")
  else
    refuseIf (status ≠ .completed) "non-verification mission must close with completed status"

/-- The counts of a scan summary's payload. -/
def EventV1.summaryCounts (e : EventV1) : Option (ℕ × ℕ) :=
  match e.payload with
  | .scanCompleted _ _ candidateCount _ parseFailureCount =>
    some (candidateCount, parseFailureCount)
  | _ => none

def applyMissionClosed (s : Reduction) (e : EventV1) (candidateCount parseFailureCount : ℕ)
    (status : ClosedStatus) : Except ReductionError Reduction := do
  checkClosedStatus s status
  refuseIf (candidateCount ≠ s.candidates.length)
    "mission_closed candidate_count does not match retained candidates"
  refuseIf (parseFailureCount ≠ s.failures.length)
    "mission_closed parse_failure_count does not match retained failures"
  let summary ← orRefuse s.scanSummary "mission_closed requires a retained scan summary"
  refuseIf (summary.summaryCounts ≠ some (candidateCount, parseFailureCount))
    "mission_closed counts do not match scan_completed"
  return { s with terminal := some e }

/-! ## The loop -/

/-- The branch of an event's kind. -/
def applyPayload (s : Reduction) (e : EventV1) : Except ReductionError Reduction :=
  match e.payload with
  | .authorityAdmitted admission grant _ _ => applyAuthorityAdmitted s admission grant
  | .missionOpened snapshot => .ok { s with targetSnapshot := some snapshot }
  | .analysisLeaseIssued lease => applyAnalysisLeaseIssued s e lease
  | .candidateRecorded c => applyCandidateRecorded s e c
  | .parseFailed leaseId failure digest => applyParseFailed s e leaseId failure digest
  | .missionAdmissionRefused .. => .ok { s with refusal := some e, terminal := some e }
  | .scanFailed _ | .scanTimedOut _ | .scanCancelled _ | .budgetExhausted _ =>
    .ok { s with failure := some e, terminal := some e }
  | .scanCompleted version bytes candidates files failures =>
    applyScanCompleted s e version bytes candidates files failures
  | .verificationLeaseIssued lease trust snapshotId =>
    applyVerificationLeaseIssued s e lease trust snapshotId
  | .verificationLeaseExpired leaseId => applyVerificationLeaseExpired s e leaseId
  | .verificationLeaseCancelled reason leaseId =>
    applyVerificationLeaseCancelled s e reason leaseId
  | .verificationLeaseReassigned lease predecessorId reason trust snapshotId =>
    applyVerificationLeaseReassigned P s e lease predecessorId reason trust snapshotId
  | .verificationArtifactsResolved r => applyVerificationArtifactsResolved s e r
  | .verifierReceiptAdmitted profile trust snapshotId signed outputs =>
    applyVerifierReceiptAdmitted P s e profile trust snapshotId signed outputs
  | .missionClosed candidates failures status =>
    applyMissionClosed s e candidates failures status

/-- The end of a turn : the new phase and the chain fields for the next event. -/
def Reduction.advance (s : Reduction) (phase : Phase) (e : EventV1) : Reduction :=
  { s with
    phase := phase
    expectedSeq := s.expectedSeq + 1
    expectedPrev := e.eventDigest
    previousDecisionTime := some e.decisionTime }

/-- One turn of the loop. -/
def step (s : Reduction) (e : EventV1) : Except ReductionError Reduction := do
  checkHeader P s e
  let phase ← transition s.phase e.kind
  let s' ← applyPayload P s e
  return s'.advance phase e

/-- The loop over the retained events. -/
def reduceLoop (first : EventV1) (events : List EventV1) : Except ReductionError Reduction :=
  events.foldlM (step P) (Reduction.initial first)

/-- The five disposition sets of the closing check. -/
def Reduction.leaseDispositions (s : Reduction) : List (Finset Digest) :=
  [s.activeVerificationLeaseIds, s.expiredVerificationLeaseIds, s.cancelledVerificationLeaseIds,
    s.supersededVerificationLeaseIds, s.consumedVerificationLeaseIds]

/-- The closing check of the lease dispositions. -/
def checkDispositions (s : Reduction) : Except ReductionError Unit :=
  refuseIf (s.leaseDispositions.foldr (· ∪ ·) ∅ ≠ s.verificationLeaseIds ∨
      (s.leaseDispositions.map Finset.card).sum ≠ s.verificationLeaseIds.card)
    "verification leases do not have exactly one canonical disposition"

/-- `MissionProjection` : the events, the loop's final variables and the candidate
classes. -/
structure MissionProjection where
  events : List EventV1
  final : Reduction
  partitions : CandidatePartitions

/-- `reduce_events`. -/
def reduceEvents (events : List EventV1) : Except ReductionError MissionProjection :=
  match events with
  | [] => .error "cannot infer a mission projection from an empty stream"
  | first :: _ => do
    let s ← reduceLoop P first events
    checkDispositions s
    let p ← s.partitions
    return { events := events, final := s, partitions := p }

/-! ## A sample mission -/

/-- Primitives under which the sample mission is well formed. -/
def samplePrimitives : Primitives where
  eventId b := BitVec.ofNat 256 (b.seq + 1)
  wellFormed _ := true
  trustSnapshotId _ := 20
  leaseNonce _ := 7
  receiptSignatureValid _ _ := true

def sampleGrant : AuthorityGrantV1 where
  grantId := 101
  targetSnapshotId := 102
  permittedActions := [.modeledFixtureVerification, .staticAnalysis]
  evidenceDigest := 103
  expiresAt := 1000
  maxBytes := 100
  maxCandidates := 3
  maxWallclockSeconds := 500

def sampleAdmission : AuthorityAdmissionV1 where
  admissionId := 104
  authorityId := 101
  signerKeyId := ⟨105⟩
  targetSnapshotId := 102
  decisionTime := 10
  requiredActions := [.modeledFixtureVerification, .staticAnalysis]
  grantExpiresAt := 1000
  signedGrant := { grant := sampleGrant, keyId := ⟨105⟩, signature := 0 }

def sampleSnapshot : TargetSnapshotV1 where
  objectId := 102
  files := [{ relativePath := "a.py", artifactDigest := 106, size := 4 }]

def sampleAnalysisLease : AnalysisLeaseV1 where
  leaseId := 107
  missionId := 100
  authorityId := 101
  targetSnapshotId := 102
  action := .staticAnalysis
  issuedAt := 12
  expiresAt := 60
  maxBytes := 50
  maxCandidates := 2
  maxWallclockSeconds := 100

def sampleCandidate : StaticCandidateV1 where
  candidateId := 108
  missionId := 100
  authorityId := 101
  analysisLeaseId := 107
  targetSnapshotId := 102
  sourceArtifactDigest := 106
  relativePath := "a.py"

/-- The lease `id` of the sample candidate for `verifier`, from `issuedAt` on. -/
def sampleLease (id : Digest) (verifier : String) (key : Digest) (issuedAt : ℕ) :
    VerificationLeaseV1 where
  leaseId := id
  leaseNonce := 7
  missionId := 100
  authorityId := 101
  targetSnapshotId := 102
  candidateId := 108
  candidateProducerId := "VELITES"
  pocArtifactDigest := 109
  evidenceArtifactDigests := []
  environmentDigest := 110
  effectOracleId := 111
  verifierId := verifier
  verifierKeyId := ⟨key⟩
  issuanceTrustSnapshotId := 20
  issuedAt := issuedAt
  expiresAt := 90

def sampleTrust : VerifierTrustStore where
  keys := [(⟨201⟩, { verifierId := "first", publicKey := 301, roles := [verifierRole] }),
    (⟨202⟩, { verifierId := "second", publicKey := 302, roles := [verifierRole] })]
  revokedKeyIds := []
  revokedReceiptIds := []
  revokedLeaseIds := []

def sampleResolution : VerificationArtifactResolutionV1 where
  resolutionId := 112
  missionId := 100
  authorityId := 101
  targetSnapshotId := 102
  candidateId := 108
  verificationLeaseId := 402
  pocArtifact := { artifactDigest := 109, artifactType := .modeledPocInput, size := 1 }
  environmentArtifact :=
    { artifactDigest := 110, artifactType := .modeledEnvironmentSpec, size := 1 }
  effectOracleArtifact :=
    { artifactDigest := 111, artifactType := .modeledEffectOracleSpec, size := 1 }
  evidenceArtifacts := []
  targetArtifacts := [{ artifactDigest := 106, relativePath := "a.py", size := 4 }]
  resolvedAt := 40

def sampleReceipt : VerifierReceiptV1 where
  receiptId := 113
  artifactResolutionId := 112
  leaseId := 402
  missionId := 100
  authorityId := 101
  targetSnapshotId := 102
  candidateId := 108
  candidateProducerId := "VELITES"
  pocArtifactDigest := 109
  evidenceArtifactDigests := []
  environmentDigest := 110
  effectOracleId := 111
  executionOutputDigest := 501
  executionOutputSize := 1
  effectOutputDigest := 502
  effectOutputSize := 1
  measuredEnvironmentOutputDigest := 503
  measuredEnvironmentOutputSize := 1
  terminationOutputDigest := 504
  terminationOutputSize := 1
  verifierId := "second"
  verifierKeyId := ⟨202⟩
  evidenceTier := "modeled_fixture"
  verdict := .confirmed
  effectObserved := true
  oracleSatisfied := true
  completedAt := 45

def sampleOutputs : VerificationOutputArtifactsV1 where
  executionOutputArtifact :=
    { artifactDigest := 501, artifactType := .modeledExecutionOutput, size := 1 }
  effectOutputArtifact := { artifactDigest := 502, artifactType := .modeledEffectOutput, size := 1 }
  measuredEnvironmentOutputArtifact :=
    { artifactDigest := 503, artifactType := .modeledMeasuredEnvironmentOutput, size := 1 }
  terminationOutputArtifact :=
    { artifactDigest := 504, artifactType := .modeledTerminationOutput, size := 1 }

/-- The sample mission's event with a payload, at a position and a time. -/
def sampleEvent (seq time : ℕ) (payload : Payload) : EventV1 where
  missionId := 100
  seq := seq
  unit := eventUnitByKindV1 payload.kind
  authorityId := 101
  targetId := 102
  decisionTime := time
  payload := payload
  prevDigest := if seq = 0 then genesisDigest else BitVec.ofNat 256 seq
  eventDigest := BitVec.ofNat 256 (seq + 1)

/-- A verification mission with one candidate, whose first lease is reassigned and whose
second one is resolved and consumed. -/
def sampleMission : List EventV1 :=
  [sampleEvent 0 10 (.authorityAdmitted sampleAdmission sampleGrant ⟨105⟩ 0),
    sampleEvent 1 11 (.missionOpened sampleSnapshot),
    sampleEvent 2 12 (.analysisLeaseIssued sampleAnalysisLease),
    sampleEvent 3 13 (.candidateRecorded sampleCandidate),
    sampleEvent 4 14 (.scanCompleted pythonSastVersion 4 1 1 0),
    sampleEvent 5 20 (.verificationLeaseIssued (sampleLease 401 "first" 201 20) sampleTrust 20),
    sampleEvent 6 30 (.verificationLeaseReassigned (sampleLease 402 "second" 202 30) 401
      .activeLeaseSuperseded sampleTrust 20),
    sampleEvent 7 40 (.verificationArtifactsResolved sampleResolution),
    sampleEvent 8 50 (.verifierReceiptAdmitted receiptAdmissionProfileV1 sampleTrust 20
      { receipt := sampleReceipt, keyId := ⟨202⟩, signature := 0 } sampleOutputs),
    sampleEvent 9 60 (.missionClosed 1 0 .receiptCoverageComplete)]

theorem sampleMission_accepted : ∃ q, reduceEvents samplePrimitives sampleMission = .ok q := by
  have h : (reduceEvents samplePrimitives sampleMission).isOk = true := by decide +kernel
  cases hq : reduceEvents samplePrimitives sampleMission with
  | error m =>
    rw [hq] at h
    simp [Except.isOk, Except.toBool] at h
  | ok q => exact ⟨q, rfl⟩

end Etzio
