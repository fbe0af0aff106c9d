import Etzio.LeaseCommands

/-!
# The verification commands

The drafts of the commands that resolve a lease's artifacts, admit its receipt and close
the mission, and the seven commands as programs. A command loads the mission's stream,
finds its earlier event or drafts a new one, calls `reduce_events` on the extended stream,
appends with the expected head and reads the retained event back ; after a lost race it
looks for its event once more.

`VerificationCommand.draft` is the part up to building the event ; only artifact
resolution and receipt admission make calls there, and those only read the vault.
`VerificationCommand.prepare` adds the defensive `reduce_events`, and
`VerificationCommand.run` is the whole command.
-/

open CheckedRun Interaction

namespace Etzio

variable (P : Primitives) (W : CommandEnv)

/-! ## Artifact resolution -/

/-- A byte limit was exceeded. -/
def byteCeilingExceeded {α : Type} (message : String) : Except CommandError α :=
  reject "resolution_byte_ceiling_exceeded" message

/-- The retained resolutions of a lease with their events : one at most. -/
def existingResolution (q : MissionProjection) (id : Digest) :
    Except CommandError (Option (EventV1 × VerificationArtifactResolutionV1)) :=
  match (q.final.verificationArtifactResolutionEvents.filterMap fun e =>
      e.resolution?.map fun r => (e, r)).filter fun x => x.2.verificationLeaseId = id with
  | [] => .ok none
  | [x] => .ok (some x)
  | _ => reject "duplicate_retained_resolution"
      "verification lease has multiple retained artifact resolutions"

/-- `_replay_existing`. -/
def replayResolution (q : MissionProjection) (x : EventV1 × VerificationArtifactResolutionV1)
    (decisionTime : ℕ) : Except CommandError CommandOutcome := do
  refuseIf (x.2.resolvedAt ≠ decisionTime)
    (CommandError.rejected "verification_lease_resolution_conflict"
      "verification lease already has a resolution at a different time")
  return { projection := q, event := x.1, value := .resolution x.2, replayed := true }

/-- The typed inputs of a lease, each with the name of its role, its vault role, its
code-owned type and its digest. -/
def typedSpecs (lease : VerificationLeaseV1) :
    List (String × VaultRole × ArtifactType × Digest) :=
  [("poc", .verificationPocInput, .modeledPocInput, lease.pocArtifactDigest),
    ("environment", .verificationEnvironmentSpec, .modeledEnvironmentSpec,
      lease.environmentDigest),
    ("effect_oracle", .verificationEffectOracleSpec, .modeledEffectOracleSpec,
      lease.effectOracleId)] ++
  lease.evidenceArtifactDigests.map fun d =>
    ("evidence", .verificationSupportingEvidenceInput, .modeledSupportingEvidenceInput, d)

/-- `_read_typed_batch`. -/
def readTypedBatch (specs : List (String × VaultRole × ArtifactType × Digest)) (maximum : ℕ) :
    CommandProg (List (List UInt8)) :=
  .call (.resolveEvidenceArtifacts (specs.map fun s => ⟨s.2.1, s.2.2.2, maximum⟩) maximum)
    fun reply => ofExcept <| match reply with
      | .ok data => .ok data
      | .error (.passed e) => .error e
      | .error (.request index reasonCode message) =>
        let role := (specs[index]?.map Prod.fst).getD ""
        if reasonCode ∈ ["artifact_limit", "batch_limit"] then
          byteCeilingExceeded "typed verification inputs exceed the admitted byte ceiling"
        else
          reject (role ++ "_artifact_unavailable")
            (role ++ " artifact cannot be resolved under its expected type: " ++ message)
      | .error (.unavailable message) =>
        reject "verification_artifact_unavailable"
          ("typed verification inputs cannot be resolved: " ++ message)

/-- `zip(..., strict=True)`. -/
def zipStrict {α β : Type} (l : List α) (m : List β) : Except CommandError (List (α × β)) := do
  refuseIf (l.length ≠ m.length) (CommandError.raised "zip() arguments have different lengths")
  return l.zip m

/-- `source_bytes[path]` of the mapping that pairs paths with bytes. -/
def sourceAt (sources : List (SnapshotFileV1 × List UInt8)) (path : String) :
    Option (List UInt8) :=
  (sources.reverse.find? fun x => x.1.relativePath = path).map Prod.snd

/-- One file of `validate_etzio_fixture_snapshot_bytes`. -/
def validateSnapshotFile (sources : List (SnapshotFileV1 × List UInt8)) (f : SnapshotFileV1) :
    Except CommandError Unit := do
  let entry ← orRefuse (W.fixtureManifest f.relativePath)
    (.rejected "target_manifest_mismatch" ("canonical target bytes differ from the immutable " ++
      "fixture manifest: snapshot path is not present in the Etzio fixture manifest"))
  refuseIf (f.size ≠ entry.1 ∨ f.artifactDigest ≠ entry.2)
    (CommandError.rejected "target_manifest_mismatch" ("canonical target bytes differ from the " ++
      "immutable fixture manifest: snapshot metadata does not match the Etzio fixture manifest"))
  let data ← orRefuse (sourceAt sources f.relativePath) (.raised "KeyError")
  refuseIf (data.length ≠ entry.1 ∨ W.evidenceDigest data ≠ entry.2)
    (CommandError.rejected "target_manifest_mismatch" ("canonical target bytes differ from the " ++
      "immutable fixture manifest: snapshot bytes do not match the Etzio fixture manifest"))

/-- `validate_etzio_fixture_snapshot_bytes`. -/
def validateEtzioFixtureSnapshotBytes (snapshot : TargetSnapshotV1)
    (sources : List (SnapshotFileV1 × List UInt8)) : Except CommandError Unit := do
  let paths := snapshot.files.map SnapshotFileV1.relativePath
  refuseIf ((sources.map fun x => x.1.relativePath).dedup.mergeSort (· ≤ ·) ≠ paths)
    (CommandError.rejected "target_manifest_mismatch" ("canonical target bytes differ from the " ++
      "immutable fixture manifest: fixture source-byte paths differ from the target snapshot"))
  snapshot.files.forM (validateSnapshotFile W sources)

/-- The target binding of one snapshot file. -/
def targetBinding (sources : List (SnapshotFileV1 × List UInt8)) (f : SnapshotFileV1) :
    Except CommandError TargetArtifactBindingV1 := do
  let data ← orRefuse (sourceAt sources f.relativePath) (.raised "KeyError")
  TargetArtifactBindingV1.construct W
    { artifactDigest := f.artifactDigest, relativePath := f.relativePath, size := data.length }

/-- The binding of one typed input. -/
def typedBinding (x : (String × VaultRole × ArtifactType × Digest) × List UInt8) :
    Except CommandError VerificationArtifactBindingV1 :=
  VerificationArtifactBindingV1.construct
    { artifactDigest := x.1.2.2.2, artifactType := x.1.2.2.1, size := x.2.length }

/-- The end of `_resolve_from_cas`, on the bytes that were read. -/
def assembleResolution (lease : VerificationLeaseV1) (grant : AuthorityGrantV1)
    (resolvedAt typedLimit : ℕ) (targets : List TargetArtifactBindingV1)
    (typedBytes : List (List UInt8)) :
    Except CommandError VerificationArtifactResolutionV1 := do
  refuseIf ((typedBytes.map List.length).sum > typedLimit)
    (CommandError.rejected "resolution_byte_ceiling_exceeded"
      "typed verification inputs exceed the admitted byte ceiling")
  let bindings ← (← zipStrict (typedSpecs lease) typedBytes).mapM typedBinding
  match bindings with
  | poc :: environment :: effectOracle :: evidence =>
    let r ← issueResolution W
      { resolutionId := 0
        missionId := lease.missionId
        authorityId := lease.authorityId
        targetSnapshotId := lease.targetSnapshotId
        candidateId := lease.candidateId
        verificationLeaseId := lease.leaseId
        pocArtifact := poc
        environmentArtifact := environment
        effectOracleArtifact := effectOracle
        evidenceArtifacts := evidence
        targetArtifacts := targets
        resolvedAt := resolvedAt }
    refuseIf (r.typedInputBytes > typedLimit ∨ r.totalBytes > grant.maxBytes)
      (CommandError.rejected "resolution_byte_ceiling_exceeded"
        "resolved artifacts exceed the signed byte ceiling")
    refuseIf (r.totalBytes > maxResolutionArtifactBytesV1)
      (CommandError.rejected "resolution_byte_ceiling_exceeded"
        "resolved artifacts exceed the fixed overall byte ceiling")
    return r
  | _ => .error (.raised "not enough values to unpack")

/-- `_resolve_from_cas`. -/
def resolveFromCas (q : MissionProjection) (lease : VerificationLeaseV1) (resolvedAt : ℕ)
    (grant : AuthorityGrantV1) : CommandProg VerificationArtifactResolutionV1 := do
  let (opened, snapshot) ← ofExcept (targetSnapshotOf q "artifact resolution")
  ofExcept <| refuseIf (snapshot.objectId ≠ lease.targetSnapshotId)
    (CommandError.rejected "target_mismatch"
      "verification lease target differs from the retained snapshot")
  ofExcept <| refuseIf (snapshot.totalBytes > grant.maxBytes)
    (CommandError.rejected "resolution_byte_ceiling_exceeded"
      "target bytes exhaust the signed resolution byte ceiling")
  let data ← callStore (.loadEventArtifacts
    (snapshot.files.zipIdx.map fun x => ⟨opened.eventDigest, .targetSource, x.2⟩)
    snapshot.totalBytes)
  let sources ← ofExcept (zipStrict snapshot.files data)
  ofExcept (validateEtzioFixtureSnapshotBytes W snapshot sources)
  let targets ← ofExcept (snapshot.files.mapM (targetBinding W sources))
  let typedLimit := min (grant.maxBytes - snapshot.totalBytes) maxTypedVerificationInputBytesV1
  let typedBytes ← readTypedBatch (typedSpecs lease) typedLimit
  ofExcept (assembleResolution W lease grant resolvedAt typedLimit targets typedBytes)

/-- The draft of `resolve_modeled_fixture_verification_artifacts`. -/
def draftResolve (r : LeaseRequest) (retained : List EventV1) (q : MissionProjection) :
    CommandProg Draft := do
  let lease ← ofExcept (leaseById q r.verificationLeaseId)
  ofExcept (assertCandidateRetained q lease.candidateId)
  let (grant, _) ← ofExcept (authorityEvidence q "artifact resolution requires")
  ofExcept <| refuseIf (r.verificationLeaseId ∉ q.final.activeVerificationLeaseIds)
    (CommandError.rejected "verification_lease_inactive"
      "artifact resolution requires the active candidate-lineage lease")
  match ← ofExcept (existingResolution q r.verificationLeaseId) with
  | some x => return .replay (← ofExcept (replayResolution q x r.decisionTime))
  | none =>
    ofExcept <| refuseIf q.final.phase.isTerminal
      (CommandError.rejected "mission_terminal"
        "artifacts cannot be resolved after mission termination")
    ofExcept <| refuseIf (q.final.phase ≠ .awaitingVerification)
      (CommandError.rejected "verification_lease_not_issued"
        "artifact resolution requires an issued verification lease")
    ofExcept (assertHead retained r.expectedHead r.decisionTime "artifact resolution time")
    ofExcept <| refuseIf (r.decisionTime < lease.issuedAt)
      (CommandError.rejected "resolution_before_lease"
        "artifact resolution cannot precede verification lease issuance")
    ofExcept <| refuseIf (r.decisionTime ≥ lease.expiresAt)
      (CommandError.rejected "verification_lease_expired"
        "artifact resolution requires an unexpired verification lease")
    let resolution ← resolveFromCas W q lease r.decisionTime grant
    let e ← ofExcept (createEvent P retained q r.decisionTime
      (.verificationArtifactsResolved resolution))
    return .propose
      { event := e
        existing := fun c => do
          match ← existingResolution c r.verificationLeaseId with
          | some x => return some (← replayResolution c x r.decisionTime)
          | none => return none
        committed := fun c =>
          committedOutcome c.final.verificationArtifactResolutionEvents c e
            "artifact resolution event" fun x => do
              let committed ← orRefuse x.resolution? (.raised "event has no resolution")
              refuseIf (committed.resolutionId ≠ resolution.resolutionId)
                (CommandError.rejected "committed_resolution_mismatch"
                  "appended artifact resolution differs after replay")
              return .resolution committed }

/-! ## Receipt admission -/

/-- `_artifact_resolution`. -/
def artifactResolutionOf (q : MissionProjection) (id : Digest) :
    Except CommandError VerificationArtifactResolutionV1 := do
  match ← existingResolution q id with
  | some x => return x.2
  | none =>
    reject "verification_artifacts_not_resolved"
      "receipt admission requires a retained artifact resolution"

/-- The outputs a receipt claims, each with the name of its role, its vault role, its
code-owned type, its digest and its size. -/
def outputSpecs (r : VerifierReceiptV1) :
    List (String × VaultRole × ArtifactType × Digest × ℕ) :=
  [("execution_output", .verificationExecutionOutput, .modeledExecutionOutput,
      r.executionOutputDigest, r.executionOutputSize),
    ("effect_output", .verificationEffectOutput, .modeledEffectOutput, r.effectOutputDigest,
      r.effectOutputSize),
    ("measured_environment_output", .verificationMeasuredEnvironmentOutput,
      .modeledMeasuredEnvironmentOutput, r.measuredEnvironmentOutputDigest,
      r.measuredEnvironmentOutputSize),
    ("termination_output", .verificationTerminationOutput, .modeledTerminationOutput,
      r.terminationOutputDigest, r.terminationOutputSize)]

/-- The binding of one output, whose bytes have the signed size. -/
def outputBinding (x : (String × VaultRole × ArtifactType × Digest × ℕ) × List UInt8) :
    Except CommandError VerificationArtifactBindingV1 := do
  refuseIf (x.2.length ≠ x.1.2.2.2.2)
    (CommandError.rejected ("resolved_" ++ x.1.1 ++ "_artifact_size_mismatch")
      (x.1.1 ++ " bytes differ from the signed size"))
  VerificationArtifactBindingV1.construct
    { artifactDigest := x.1.2.2.2.1, artifactType := x.1.2.2.1, size := x.1.2.2.2.2 }

/-- The read of the outputs. -/
def readOutputs (specs : List (String × VaultRole × ArtifactType × Digest × ℕ)) (maximum : ℕ) :
    CommandProg (List (List UInt8)) :=
  .call (.resolveEvidenceArtifacts (specs.map fun s => ⟨s.2.1, s.2.2.2.1, s.2.2.2.2⟩) maximum)
    fun reply => ofExcept <| match reply with
      | .ok data => .ok data
      | .error (.passed e) => .error e
      | .error (.request index reasonCode _) =>
        let role := (specs[index]?.map Prod.fst).getD ""
        if reasonCode ∈ ["artifact_limit", "batch_limit"] then
          reject ("resolved_" ++ role ++ "_artifact_size_mismatch")
            (role ++ " bytes differ from the signed size")
        else
          reject ("resolved_" ++ role ++ "_artifact_unavailable")
            (role ++ " cannot be resolved under its code-owned type")
      | .error (.unavailable message) =>
        reject "resolved_output_artifact_unavailable"
          ("verification outputs cannot be resolved: " ++ message)

/-- `_resolve_new_output_artifacts`. -/
def resolveNewOutputArtifacts (a : AuthenticatedVerifierReceiptV1) (maximumOutputBytes : ℕ) :
    CommandProg VerificationOutputArtifactsV1 := do
  let specs := outputSpecs a.receipt
  let signedOutputBytes := (specs.map fun s => s.2.2.2.2).sum
  ofExcept <| refuseIf
    (signedOutputBytes > min maximumOutputBytes maxTypedVerificationOutputBytesV1)
    (CommandError.rejected "verification_output_byte_ceiling_exceeded"
      "signed verification outputs exceed the available byte allowance")
  let data ← readOutputs specs signedOutputBytes
  ofExcept do
    match ← (← zipStrict specs data).mapM outputBinding with
    | [execution, effect, measured, termination] =>
      (VerificationOutputArtifactsV1.construct
        { executionOutputArtifact := execution
          effectOutputArtifact := effect
          measuredEnvironmentOutputArtifact := measured
          terminationOutputArtifact := termination }).mapError fun x =>
            .rejected x.reasonCode x.message
    | _ => .error (.raised "KeyError")

/-- The fields of a receipt admission event. -/
def EventV1.admission? (e : EventV1) : Option (String × VerifierTrustStore × Digest ×
    SignedVerifierReceiptV1 × VerificationOutputArtifactsV1) :=
  match e.payload with
  | .verifierReceiptAdmitted profile trust snapshotId signed outputs =>
    some (profile, trust, snapshotId, signed, outputs)
  | _ => none

/-- `_existing_admission` over the admission events. -/
def existingAdmissionIn (a : AuthenticatedVerifierReceiptV1) (trust : VerifierTrustStore)
    (decisionTime : ℕ) (q : MissionProjection) :
    List EventV1 → Except CommandError (Option CommandOutcome)
  | [] => .ok none
  | e :: rest => do
    let (profile, snapshot, snapshotId, signed, outputs) ← orRefuse e.admission?
      (.raised "event has no receipt")
    if signed.receipt.leaseId = a.lease.leaseId then
      refuseIf (¬(e.decisionTime = decisionTime ∧ profile = receiptAdmissionProfileV1 ∧
          snapshotId = P.trustSnapshotId trust ∧ snapshot = trust ∧ signed = a.signedReceipt ∧
          signed.receipt.receiptId = a.receipt.receiptId))
        (CommandError.rejected "verification_lease_consumed_conflict"
          "verification lease is already consumed by a different admission")
      return some { projection := q, event := e, value := .admission a outputs, replayed := true }
    else if signed.receipt.receiptId = a.receipt.receiptId then
      reject "verifier_receipt_admission_conflict"
        "verifier receipt is already retained for another lease"
    else existingAdmissionIn a trust decisionTime q rest

/-- `_existing_admission`. -/
def existingAdmission (a : AuthenticatedVerifierReceiptV1) (trust : VerifierTrustStore)
    (decisionTime : ℕ) (q : MissionProjection) : Except CommandError (Option CommandOutcome) :=
  existingAdmissionIn P a trust decisionTime q q.final.verificationReceiptAdmissionEvents

/-- The draft of `admit_modeled_fixture_verifier_receipt`. -/
def draftAdmit (r : AdmitRequest) (retained : List EventV1) (q : MissionProjection) :
    CommandProg Draft := do
  let lease ← ofExcept (leaseById q r.verificationLeaseId)
  ofExcept (assertCandidateRetained q lease.candidateId)
  ofExcept <| refuseIf (r.verificationLeaseId ∉ q.final.activeVerificationLeaseIds ∧
      r.verificationLeaseId ∉ q.final.consumedVerificationLeaseIds)
    (CommandError.rejected "verification_lease_inactive"
      "receipt admission requires the active candidate-lineage lease")
  let resolution ← ofExcept (artifactResolutionOf q r.verificationLeaseId)
  let a ← ofExcept <| (authenticateVerifierReceipt P r.signedReceipt r.decisionTrustStore lease
    resolution r.decisionTime).mapError fun x => CommandError.rejected x.reasonCode x.message
  match ← ofExcept (existingAdmission P a r.decisionTrustStore r.decisionTime q) with
  | some o => return .replay o
  | none =>
    ofExcept <| refuseIf q.final.phase.isTerminal
      (CommandError.rejected "mission_terminal"
        "receipt cannot be admitted after mission termination")
    ofExcept <| refuseIf (q.final.phase ≠ .awaitingVerification)
      (CommandError.rejected "verification_not_awaiting_receipt"
        "receipt admission requires awaiting_verification state")
    ofExcept (assertHead retained r.expectedHead r.decisionTime "receipt admission time")
    let (grant, _) ← ofExcept (authorityEvidence q "receipt admission requires")
    ofExcept <| refuseIf (grant.maxBytes ≤ resolution.totalBytes)
      (CommandError.rejected "verification_output_byte_ceiling_exceeded"
        "the signed byte ceiling leaves no allowance for verifier outputs")
    let outputs ← resolveNewOutputArtifacts a (grant.maxBytes - resolution.totalBytes)
    ofExcept <| refuseIf (resolution.totalBytes + outputs.totalBytes > grant.maxBytes)
      (CommandError.rejected "verification_output_byte_ceiling_exceeded"
        "resolved inputs and verifier outputs exceed the signed byte ceiling")
    let e ← ofExcept (createEvent P retained q r.decisionTime
      (.verifierReceiptAdmitted receiptAdmissionProfileV1 r.decisionTrustStore
        (P.trustSnapshotId r.decisionTrustStore) a.signedReceipt outputs))
    return .propose
      { event := e
        existing := existingAdmission P a r.decisionTrustStore r.decisionTime
        committed := fun c =>
          committedOutcome c.final.verificationReceiptAdmissionEvents c e
            "receipt admission event" fun x => do
              let (_, _, _, _, committed) ← orRefuse x.admission? (.raised "event has no receipt")
              return .admission a committed }

/-! ## Closure -/

/-- The ids of `candidate_ids`, read off the candidate events. -/
def candidateIdsOf (q : MissionProjection) : Finset Digest :=
  (q.final.candidates.filterMap fun e =>
    e.candidate?.map StaticCandidateV1.candidateId).toFinset

/-- `_verification_closure_status`. -/
def verificationClosureStatus (q : MissionProjection) : Except CommandError ClosedStatus := do
  refuseIf (q.final.activeVerificationLeaseIds ≠ ∅)
    (CommandError.rejected "verification_leases_active"
      "verification mission cannot close while any lease remains active")
  refuseIf (q.partitions.receiptCovered ∪ q.partitions.neverAssigned ∪
      q.partitions.latestExpired ∪ q.partitions.latestCancelled ≠ candidateIdsOf q)
    (CommandError.rejected "verification_coverage_incomplete_partition"
      "candidate recovery partition is not exhaustive")
  return if q.partitions.receiptCovered = candidateIdsOf q then .receiptCoverageComplete
    else .receiptCoverageIncomplete

/-- The status of a closing event. -/
def EventV1.closedStatus? (e : EventV1) : Option ClosedStatus :=
  match e.payload with
  | .missionClosed _ _ status => some status
  | _ => none

/-- `_existing_closure`. -/
def existingClosure (decisionTime : ℕ) (q : MissionProjection) :
    Except CommandError (Option CommandOutcome) :=
  match q.final.terminal.bind fun e => e.closedStatus?.map fun s => (e, s) with
  | none => .ok none
  | some (e, status) => do
    refuseIf (status = .completed ∧ ¬(q.final.candidates = [] ∧ q.final.noVerificationEvents))
      (CommandError.rejected "verification_closure_conflict"
        "retained closure is not a verification-coverage closure")
    refuseIf (e.decisionTime ≠ decisionTime)
      (CommandError.rejected "verification_closure_conflict"
        "mission already closed at a different decision time")
    return some { projection := q, event := e, value := .closure status, replayed := true }

/-- The draft of `close_modeled_fixture_verification_mission`. -/
def draftClose (r : CloseRequest) (retained : List EventV1) (q : MissionProjection) :
    Except CommandError Draft := do
  let _ ← recoveryAuthority q
  match ← existingClosure r.decisionTime q with
  | some o => return .replay o
  | none =>
    refuseIf q.final.phase.isTerminal
      (CommandError.rejected "mission_terminal"
        "verification closure cannot replace another terminal outcome")
    refuseIf (¬q.final.phase.scanned)
      (CommandError.rejected "scan_not_completed"
        "verification closure requires a completed fixture scan")
    assertHead retained r.expectedHead r.decisionTime "closure decision time"
    let status ← verificationClosureStatus q
    refuseIf (q.final.scanSummary = none)
      (CommandError.rejected "scan_summary_missing"
        "verification closure requires a retained scan summary")
    let e ← createEvent P retained q r.decisionTime
      (.missionClosed q.final.candidates.length q.final.failures.length status)
    return .propose
      { event := e
        existing := existingClosure r.decisionTime
        committed := fun c => do
          let retained ← orRefuse (c.final.terminal.filter fun x => x.eventDigest = e.eventDigest)
            (.rejected "committed_event_missing"
              "appended verification closure is absent from replay")
          return { projection := c, event := retained, value := .closure status,
                   replayed := false } }

/-! ## The commands -/

/-- The draft of a command on a retained stream and its projection. -/
def VerificationCommand.draft (c : VerificationCommand) (retained : List EventV1)
    (q : MissionProjection) : CommandProg Draft :=
  match c with
  | .issue r => ofExcept (draftIssue P W r retained q)
  | .expire r => ofExcept (draftExpire P r retained q)
  | .cancel r reasonCode => ofExcept (draftCancel P r reasonCode retained q)
  | .reassign r => ofExcept (draftReassign P W r retained q)
  | .resolve r => draftResolve P W r retained q
  | .admitReceipt r => draftAdmit P r retained q
  | .close r => ofExcept (draftClose P r retained q)

/-- `reduce_events`, whose error ends the command. -/
def reduced (events : List EventV1) : CommandProg MissionProjection :=
  ofExcept ((reduceEvents P events).mapError .reduction)

/-- The command on a retained stream, up to its append : the draft, and the defensive
`reduce_events` of the stream with the drafted event. -/
def VerificationCommand.prepare (c : VerificationCommand) (retained : List EventV1) :
    CommandProg Draft := do
  let q ← reduced P retained
  match ← c.draft P W retained q with
  | .replay o => return .replay o
  | .propose p =>
    let _ ← reduced P (retained ++ [p.event])
    return .propose p

/-- The subject of the `mission_not_found` message. -/
def VerificationCommand.subject : VerificationCommand → String
  | .issue _ => "verification lease"
  | .resolve _ => "artifact resolution"
  | .admitReceipt _ => "receipt admission"
  | _ => "verification recovery"

/-- `reduce_events(event_store.load(mission_id))`. -/
def VerificationCommand.reload (c : VerificationCommand) : CommandProg MissionProjection := do
  reduced P (← callStore (.load c.missionId))

/-- The append of a command ; receipt admission tries once more when the store is busy. -/
def VerificationCommand.append (c : VerificationCommand) (e : EventV1) : CommandProg Unit :=
  match c with
  | .admitReceipt _ =>
    (callStore (.append c.appendKind e c.expectedHead)).handle fun
      | .storeBusy => callStore (.append c.appendKind e c.expectedHead)
      | x => .raise x
  | _ => callStore (.append c.appendKind e c.expectedHead)

/-- What a command does when its append failed : after a lost race, and for receipt
admission also when the store stayed busy, it looks for its event once more. -/
def VerificationCommand.recover (c : VerificationCommand) (p : Proposal) (x : CommandError) :
    CommandProg CommandOutcome := do
  if x = .staleHead ∨ (x = .storeBusy ∧ c.appendKind = .appendReceiptAdmission) then
    let q ← c.reload P
    match ← ofExcept (p.existing q) with
    | some o => return o
    | none =>
      if x = .storeBusy ∧ headDigest q.events ≠ c.expectedHead then
        Prog.raise .staleHead
      else Prog.raise x
  else Prog.raise x

/-- The append of a drafted event, and the read of the retained one. -/
def VerificationCommand.commit (c : VerificationCommand) (p : Proposal) :
    CommandProg CommandOutcome := do
  let appended ← ((c.append p.event >>= fun _ => pure none).handle fun x =>
    c.recover P p x >>= fun o => pure (some o))
  match appended with
  | some o => return o
  | none => ofExcept (p.committed (← c.reload P))

/-- The command. -/
def VerificationCommand.run (c : VerificationCommand) : CommandProg CommandOutcome := do
  ofExcept c.validateRequest
  let retained ← callStore (.load c.missionId)
  ofExcept <| refuseIf (retained = [])
    (CommandError.rejected "mission_not_found"
      (c.subject ++ " requires a retained mission stream"))
  match ← c.prepare P W retained with
  | .replay o => return o
  | .propose p => c.commit P p

end Etzio
