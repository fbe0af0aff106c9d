import Etzio.CommandAcceptance

/-!
# What a command finds

A command looks for the event of an earlier call before it drafts one, and once more after a
lost race. `VerificationCommand.answer` is the event it looks for : the first of the stream
under the command's own keys. `Context` is what a draft has checked by then, with the lookup it
makes ; the lookup returns the answer of the stream (`Context.found`) and goes on returning
it on every longer one (`Context.stable`). `Proposed` is what is known of a proposal.
-/

open CheckedRun Interaction LeaseBook

namespace Etzio

variable {P : Primitives} {W : CommandEnv} {S : Type*}
  {H : (σ : Type) → S → StoreCall σ → σ → S → Prop}

/-! ## Answers -/

/-- The event is one that the command looks for. -/
def VerificationCommand.answers (c : VerificationCommand) (e : EventV1) : Prop :=
  match c with
  | .issue r => e.createdLease?.map VerificationLeaseV1.candidateId = some r.candidateId
  | .expire r => e.kind ∈ ([.verificationLeaseExpired] : List EventKind) ∧
      e.disposition?.map Prod.fst = some r.verificationLeaseId
  | .cancel r _ => e.kind ∈ ([.verificationLeaseCancelled] : List EventKind) ∧
      e.disposition?.map Prod.fst = some r.verificationLeaseId
  | .reassign r => e.predecessor? = some r.predecessorVerificationLeaseId
  | .resolve r => e.resolution?.map VerificationArtifactResolutionV1.verificationLeaseId =
      some r.verificationLeaseId
  | .admitReceipt r => e.receipt?.map VerifierReceiptV1.leaseId = some r.verificationLeaseId
  | .close _ => e.closedStatus? ≠ none

instance (c : VerificationCommand) (e : EventV1) : Decidable (c.answers e) :=
  match c with
  | .issue _ => inferInstanceAs (Decidable (_ = _))
  | .expire _ => inferInstanceAs (Decidable (_ ∧ _))
  | .cancel _ _ => inferInstanceAs (Decidable (_ ∧ _))
  | .reassign _ => inferInstanceAs (Decidable (_ = _))
  | .resolve _ => inferInstanceAs (Decidable (_ = _))
  | .admitReceipt _ => inferInstanceAs (Decidable (_ = _))
  | .close _ => inferInstanceAs (Decidable (_ ≠ _))

/-- The event of a stream that the command looks for. -/
def VerificationCommand.answer (c : VerificationCommand) (h : List EventV1) : Option EventV1 :=
  h.find? fun e => c.answers e

/-- An answer stays the answer. -/
theorem answer_longer {c : VerificationCommand} {h h' : List EventV1} {e : EventV1}
    (hp : h <+: h') (he : c.answer h = some e) : c.answer h' = some e :=
  hp.find?_eq_some he

theorem answer_snoc {c : VerificationCommand} {h : List EventV1} {e : EventV1}
    (hnone : c.answer h = none) (he : c.answers e) : c.answer (h ++ [e]) = some e := by
  rw [VerificationCommand.answer, List.find?_append]
  rw [VerificationCommand.answer] at hnone
  simp [hnone, he]

theorem find?_ofKinds {p q : EventV1 → Prop} [DecidablePred p] [DecidablePred q]
    {kinds : List EventKind} (h : List EventV1) (hq : ∀ e, (e.kind ∈ kinds ∧ p e) ↔ q e) :
    (ofKinds kinds h).find? (fun e => p e) = h.find? fun e => q e := by
  rw [ofKinds, List.find?_filter]
  congr 1
  funext e
  rw [Bool.eq_iff_iff]
  simpa using hq e

/-! ## Reading a longer stream -/

section Prefix

variable {h h' : List EventV1} {q q' : MissionProjection}

theorem reduceEvents_events (hq : reduceEvents P h = .ok q) : q.events = h ∧ h ≠ [] := by
  obtain ⟨first, rest, rfl, hevents, -⟩ := reduceEvents_eq_ok hq
  exact ⟨hevents, List.cons_ne_nil _ _⟩

theorem authorityEvidence_longer (hq : reduceEvents P h = .ok q)
    (hq' : reduceEvents P h' = .ok q') (hp : h <+: h') (what : String) :
    authorityEvidence q' what = authorityEvidence q what := by
  obtain ⟨hevents, hne⟩ := reduceEvents_events hq
  obtain ⟨hevents', -⟩ := reduceEvents_events hq'
  have hhead : h'.head? = h.head? := by
    obtain ⟨t, rfl⟩ := hp
    exact List.head?_append_of_ne_nil h hne
  rw [authorityEvidence, authorityEvidence, hevents, hevents', hhead]

theorem recoveryAuthority_longer (hq : reduceEvents P h = .ok q)
    (hq' : reduceEvents P h' = .ok q') (hp : h <+: h') :
    recoveryAuthority q' = recoveryAuthority q := by
  rw [recoveryAuthority, recoveryAuthority, authorityEvidence_longer hq hq' hp]

theorem leaseById_eq (hq : reduceEvents P h = .ok q) (i : Digest) :
    leaseById q i = orRefuse ((createdLeases h).find? fun l => l.leaseId = i)
      (.rejected "verification_lease_not_retained"
        "verification_lease_id is absent from canonical mission history") := by
  obtain ⟨first, rest, rfl, -, run⟩ := reduceEvents_eq_ok hq
  have hcreated := createdLeases_ofKinds (first :: rest)
  rw [createdLeases] at hcreated
  rw [leaseById, (reduceLoop_records run).leases, hcreated]

theorem leaseById_longer (hq : reduceEvents P h = .ok q) (hq' : reduceEvents P h' = .ok q')
    (hp : h <+: h') {i : Digest} {lease : VerificationLeaseV1} (hl : leaseById q i = .ok lease) :
    leaseById q' i = .ok lease := by
  rw [leaseById_eq hq, orRefuse_eq_ok] at hl
  rw [leaseById_eq hq', orRefuse_eq_ok]
  exact (hp.filterMap EventV1.createdLease?).find?_eq_some hl

theorem candidateEventOf_eq (hq : reduceEvents P h = .ok q) (i : Digest) :
    candidateEventOf q i =
      h.find? fun e => e.candidate?.map StaticCandidateV1.candidateId = some i := by
  obtain ⟨first, rest, rfl, -, run⟩ := reduceEvents_eq_ok hq
  rw [candidateEventOf, (reduceLoop_records run).candidates]
  refine find?_ofKinds _ fun e => and_iff_right_of_imp fun he => ?_
  by_contra hk
  rw [candidate?_eq_none (by simpa using hk)] at he
  simp at he

theorem candidateEventOf_longer (hq : reduceEvents P h = .ok q)
    (hq' : reduceEvents P h' = .ok q') (hp : h <+: h') {i : Digest} {e : EventV1}
    (he : candidateEventOf q i = some e) : candidateEventOf q' i = some e := by
  rw [candidateEventOf_eq hq] at he
  rw [candidateEventOf_eq hq']
  exact hp.find?_eq_some he

theorem assertCandidateRetained_longer (hq : reduceEvents P h = .ok q)
    (hq' : reduceEvents P h' = .ok q') (hp : h <+: h') {i : Digest}
    (hi : assertCandidateRetained q i = .ok ()) : assertCandidateRetained q' i = .ok () := by
  simp only [assertCandidateRetained, refuseIf_eq_ok] at hi ⊢
  obtain ⟨e, he⟩ := Option.ne_none_iff_exists'.mp hi
  simp [candidateEventOf_longer hq hq' hp he]

/-- The retained resolutions with their events. -/
def readResolutions (h : List EventV1) : List (EventV1 × VerificationArtifactResolutionV1) :=
  h.filterMap fun e => e.resolution?.map fun r => (e, r)

/-- A lease is resolved once. -/
theorem readResolutions_unique (hq : reduceEvents P h = .ok q) (i : Digest) :
    ((readResolutions h).filter fun x => x.2.verificationLeaseId = i).length ≤ 1 := by
  obtain ⟨first, rest, rfl, -, run⟩ := reduceEvents_eq_ok hq
  obtain ⟨b, hb, -⟩ := reduceLoop_follows run
  have hcount : (resolvedLeases (first :: rest)).count i ≤ 1 := by
    rw [← count_resolve_leaseMoves, (settled hb).resolved]
    exact Bool.toNat_le _
  rw [resolvedLeases_eq, retainedResolutions_eq, List.map_map, List.count, List.countP_map,
    List.countP_eq_length_filter] at hcount
  simpa [Function.comp_def, readResolutions, beq_eq_decide] using hcount

theorem existingResolution_eq_ok (hq : reduceEvents P h = .ok q) {i : Digest}
    {x : EventV1 × VerificationArtifactResolutionV1} :
    existingResolution q i = .ok (some x) ↔
      (readResolutions h).filter (fun x => x.2.verificationLeaseId = i) = [x] := by
  unfold existingResolution readResolutions
  rw [resolutions_read hq]
  split
  · rename_i hempty
    simp [hempty]
  · rename_i y hone
    simp [hone]
  · rename_i hmany hone
    rw [iff_false_right fun hx => hone x hx]
    simp [reject]

theorem existingResolution_absent (hq : reduceEvents P h = .ok q) {i : Digest}
    (hnone : existingResolution q i = .ok none) :
    (readResolutions h).filter (fun x => x.2.verificationLeaseId = i) = [] := by
  unfold existingResolution at hnone
  rw [resolutions_read hq] at hnone
  split at hnone
  · assumption
  · simp at hnone
  · simp [reject] at hnone

theorem existingResolution_longer (hq : reduceEvents P h = .ok q)
    (hq' : reduceEvents P h' = .ok q') (hp : h <+: h') {i : Digest}
    {x : EventV1 × VerificationArtifactResolutionV1}
    (hx : existingResolution q i = .ok (some x)) : existingResolution q' i = .ok (some x) := by
  rw [existingResolution_eq_ok hq] at hx
  rw [existingResolution_eq_ok hq']
  have hlonger : [x] <+: (readResolutions h').filter fun x => x.2.verificationLeaseId = i :=
    hx ▸ (hp.filterMap _).filter _
  exact (hlonger.eq_of_length_le (readResolutions_unique hq' i)).symm

theorem artifactResolutionOf_longer (hq : reduceEvents P h = .ok q)
    (hq' : reduceEvents P h' = .ok q') (hp : h <+: h') {i : Digest}
    {r : VerificationArtifactResolutionV1} (hr : artifactResolutionOf q i = .ok r) :
    artifactResolutionOf q' i = .ok r := by
  obtain ⟨x, hx, hreturn⟩ := bind_eq_ok.mp hr
  cases x with
  | none => simp [reject] at hreturn
  | some x =>
    rw [artifactResolutionOf, bind_of_ok (existingResolution_longer hq hq' hp hx)]
    exact hreturn

end Prefix

/-! ## Lookups -/

section Lookups

variable {h : List EventV1} {q : MissionProjection}

/-- The assignment of a lease event that `_matching_existing` accepts as its own. -/
def IssueRequest.matches (P : Primitives) (r : IssueRequest) (verifierId : String)
    (expiresAt : ℕ) (lease : VerificationLeaseV1) (trust : VerifierTrustStore)
    (snapshotId : Digest) : Prop :=
  lease.pocArtifactDigest = r.pocArtifactDigest ∧
    lease.evidenceArtifactDigests = r.evidenceArtifactDigests ∧
    lease.environmentDigest = r.environmentDigest ∧
    lease.effectOracleId = r.effectOracleId ∧ lease.verifierId = verifierId ∧
    lease.verifierKeyId = r.verifierKeyId ∧
    lease.issuanceTrustSnapshotId = P.trustSnapshotId r.verifierTrustStore ∧
    lease.issuedAt = r.decisionTime ∧ lease.expiresAt = expiresAt ∧
    snapshotId = P.trustSnapshotId r.verifierTrustStore ∧ trust = r.verifierTrustStore

theorem leaseEvents_find (hq : reduceEvents P h = .ok q) (r : IssueRequest) :
    q.final.verificationLeaseEvents.find? (fun e =>
      e.createdLease?.map VerificationLeaseV1.candidateId = some r.candidateId) =
      (VerificationCommand.issue r).answer h := by
  obtain ⟨first, rest, rfl, -, run⟩ := reduceEvents_eq_ok hq
  rw [(reduceLoop_records run).leases]
  refine find?_ofKinds _ fun e => and_iff_right_of_imp fun he => ?_
  obtain ⟨l, hl, -⟩ := Option.map_eq_some_iff.mp he
  unfold EventV1.createdLease? at hl
  split at hl
  · rename_i hp
    simp [EventBody.kind, hp, Payload.kind]
  · rename_i hp
    simp [EventBody.kind, hp, Payload.kind]
  · simp at hl

theorem matchingExisting_eq_some (hq : reduceEvents P h = .ok q) {r : IssueRequest}
    {verifierId : String} {expiresAt : ℕ} {o : CommandOutcome} :
    matchingExisting P r verifierId expiresAt q = .ok (some o) ↔
      ∃ e lease trust snapshotId, (VerificationCommand.issue r).answer h = some e ∧
        e.leaseGrant? = some (lease, trust, snapshotId) ∧
        r.matches P verifierId expiresAt lease trust snapshotId ∧
        o = { projection := q, event := e, value := .lease lease, replayed := true } := by
  unfold matchingExisting
  rw [leaseEvents_find hq]
  cases hanswer : (VerificationCommand.issue r).answer h with
  | none => simp
  | some e =>
    simp only [orRefuse_bind_eq_ok, unit_bind_eq_ok, refuseIf_eq_ok, not_not, Prod.exists,
      Option.some.injEq]
    constructor
    · rintro ⟨lease, trust, snapshotId, hgrant, hmatches, ho⟩
      exact ⟨e, lease, trust, snapshotId, rfl, hgrant, hmatches,
        (Option.some.inj (Except.ok.inj ho)).symm⟩
    · rintro ⟨_, lease, trust, snapshotId, rfl, hgrant, hmatches, rfl⟩
      exact ⟨lease, trust, snapshotId, hgrant, hmatches, rfl⟩

theorem matchingExisting_absent (hq : reduceEvents P h = .ok q) {r : IssueRequest}
    {verifierId : String} {expiresAt : ℕ}
    (hnone : matchingExisting P r verifierId expiresAt q = .ok none) :
    (VerificationCommand.issue r).answer h = none := by
  unfold matchingExisting at hnone
  rw [leaseEvents_find hq] at hnone
  split at hnone
  · assumption
  · obtain ⟨⟨lease, trust, snapshotId⟩, -, hnone⟩ := bind_eq_ok.mp hnone
    simp [pure, Except.pure] at hnone

/-- The lookup of a disposition among the events of its kind. -/
theorem existingDisposition_eq_some {c : VerificationCommand}
    {events : MissionProjection → List EventV1} {r : LeaseRequest} {reasonCode : Option String}
    (hfind : (events q).find? (fun e =>
      e.disposition?.map Prod.fst = some r.verificationLeaseId) = c.answer h)
    {o : CommandOutcome} :
    existingDisposition events r reasonCode q = .ok (some o) ↔
      ∃ e lease, c.answer h = some e ∧ (e.decisionTime = r.decisionTime ∧
          (reasonCode = none ∨ e.disposition?.map Prod.snd = some reasonCode)) ∧
        leaseById q r.verificationLeaseId = .ok lease ∧
        o = { projection := q, event := e, value := .lease lease, replayed := true } := by
  unfold existingDisposition
  rw [hfind]
  cases hanswer : c.answer h with
  | none => simp
  | some e =>
    simp only [unit_bind_eq_ok, refuseIf_eq_ok, not_not, Option.some.injEq]
    constructor
    · rintro ⟨hmatches, hrest⟩
      obtain ⟨lease, hlease, ho⟩ := bind_eq_ok.mp hrest
      exact ⟨e, lease, rfl, hmatches, hlease, (Option.some.inj (Except.ok.inj ho)).symm⟩
    · rintro ⟨_, lease, rfl, hmatches, hlease, rfl⟩
      exact ⟨hmatches, bind_eq_ok.mpr ⟨lease, hlease, rfl⟩⟩

theorem existingDisposition_absent {c : VerificationCommand}
    {events : MissionProjection → List EventV1} {r : LeaseRequest} {reasonCode : Option String}
    (hfind : (events q).find? (fun e =>
      e.disposition?.map Prod.fst = some r.verificationLeaseId) = c.answer h)
    (hnone : existingDisposition events r reasonCode q = .ok none) : c.answer h = none := by
  unfold existingDisposition at hnone
  rw [hfind] at hnone
  split at hnone
  · assumption
  · obtain ⟨-, hnone⟩ := unit_bind_eq_ok.mp hnone
    obtain ⟨lease, -, hnone⟩ := bind_eq_ok.mp hnone
    simp [pure, Except.pure] at hnone

theorem expiryEvents_eq (hq : reduceEvents P h = .ok q) :
    expiryEvents q = ofKinds [.verificationLeaseExpired] h := by
  obtain ⟨first, rest, rfl, -, run⟩ := reduceEvents_eq_ok hq
  exact (reduceLoop_records run).expiries

theorem expiryEvents_find (hq : reduceEvents P h = .ok q) (r : LeaseRequest) :
    (expiryEvents q).find? (fun e => e.disposition?.map Prod.fst = some r.verificationLeaseId) =
      (VerificationCommand.expire r).answer h := by
  rw [expiryEvents_eq hq]
  exact find?_ofKinds _ fun e => Iff.rfl

theorem cancellationEvents_eq (hq : reduceEvents P h = .ok q) :
    cancellationEvents q = ofKinds [.verificationLeaseCancelled] h := by
  obtain ⟨first, rest, rfl, -, run⟩ := reduceEvents_eq_ok hq
  exact (reduceLoop_records run).cancellations

theorem cancellationEvents_find (hq : reduceEvents P h = .ok q) (r : LeaseRequest)
    (reasonCode : String) :
    (cancellationEvents q).find? (fun e =>
      e.disposition?.map Prod.fst = some r.verificationLeaseId) =
      (VerificationCommand.cancel r reasonCode).answer h := by
  rw [cancellationEvents_eq hq]
  exact find?_ofKinds _ fun e => Iff.rfl

/-- The successor that `_existing_reassignment` accepts as its own. -/
def ReassignRequest.matches (P : Primitives) (r : ReassignRequest) (expiresAt : ℕ) (e : EventV1)
    (successor : VerificationLeaseV1) (trust : VerifierTrustStore) (snapshotId : Digest) : Prop :=
  e.decisionTime = r.decisionTime ∧ successor.verifierKeyId = r.verifierKeyId ∧
    successor.issuanceTrustSnapshotId = P.trustSnapshotId r.verifierTrustStore ∧
    successor.issuedAt = r.decisionTime ∧ successor.expiresAt = expiresAt ∧
    snapshotId = P.trustSnapshotId r.verifierTrustStore ∧ trust = r.verifierTrustStore

theorem reassignmentEvents_find (hq : reduceEvents P h = .ok q) {r : ReassignRequest}
    {predecessor : VerificationLeaseV1}
    (hid : predecessor.leaseId = r.predecessorVerificationLeaseId) :
    q.final.verificationLeaseReassignmentEvents.find? (fun e =>
      e.predecessor? = some predecessor.leaseId) = (VerificationCommand.reassign r).answer h := by
  obtain ⟨first, rest, rfl, -, run⟩ := reduceEvents_eq_ok hq
  rw [(reduceLoop_records run).reassignments]
  rw [hid]
  refine find?_ofKinds _ fun e => and_iff_right_of_imp fun he => ?_
  unfold EventV1.predecessor? at he
  split at he
  · rename_i hp
    simp [EventBody.kind, hp, Payload.kind]
  · simp at he

theorem existingReassignment_eq_some (hq : reduceEvents P h = .ok q) {r : ReassignRequest}
    {predecessor : VerificationLeaseV1}
    (hid : predecessor.leaseId = r.predecessorVerificationLeaseId) {expiresAt : ℕ}
    {o : CommandOutcome} :
    existingReassignment P r predecessor expiresAt q = .ok (some o) ↔
      ∃ e successor trust snapshotId, (VerificationCommand.reassign r).answer h = some e ∧
        e.leaseGrant? = some (successor, trust, snapshotId) ∧
        r.matches P expiresAt e successor trust snapshotId ∧
        o = { projection := q, event := e, value := .reassignment predecessor successor,
              replayed := true } := by
  unfold existingReassignment
  rw [reassignmentEvents_find hq hid]
  cases hanswer : (VerificationCommand.reassign r).answer h with
  | none => simp
  | some e =>
    simp only [orRefuse_bind_eq_ok, unit_bind_eq_ok, refuseIf_eq_ok, not_not, Prod.exists,
      Option.some.injEq]
    constructor
    · rintro ⟨successor, trust, snapshotId, hgrant, hmatches, ho⟩
      exact ⟨e, successor, trust, snapshotId, rfl, hgrant, hmatches,
        (Option.some.inj (Except.ok.inj ho)).symm⟩
    · rintro ⟨_, successor, trust, snapshotId, rfl, hgrant, hmatches, rfl⟩
      exact ⟨successor, trust, snapshotId, hgrant, hmatches, rfl⟩

theorem existingReassignment_absent (hq : reduceEvents P h = .ok q) {r : ReassignRequest}
    {predecessor : VerificationLeaseV1}
    (hid : predecessor.leaseId = r.predecessorVerificationLeaseId) {expiresAt : ℕ}
    (hnone : existingReassignment P r predecessor expiresAt q = .ok none) :
    (VerificationCommand.reassign r).answer h = none := by
  unfold existingReassignment at hnone
  rw [reassignmentEvents_find hq hid] at hnone
  split at hnone
  · assumption
  · obtain ⟨⟨successor, trust, snapshotId⟩, -, hnone⟩ := bind_eq_ok.mp hnone
    simp [pure, Except.pure] at hnone

theorem resolutionLookup_eq_some {r : LeaseRequest} {o : CommandOutcome} :
    resolutionLookup r q = .ok (some o) ↔
      ∃ x, existingResolution q r.verificationLeaseId = .ok (some x) ∧
        x.2.resolvedAt = r.decisionTime ∧
        o = { projection := q, event := x.1, value := .resolution x.2, replayed := true } := by
  rw [resolutionLookup, bind_eq_ok]
  constructor
  · rintro ⟨found, hfound, hrest⟩
    cases found with
    | none => simp [pure, Except.pure] at hrest
    | some x =>
      obtain ⟨o', ho', hreturn⟩ := bind_eq_ok.mp hrest
      obtain ⟨htime, ho'⟩ := unit_bind_eq_ok.mp ho'
      obtain rfl := Option.some.inj (Except.ok.inj hreturn)
      exact ⟨x, hfound, not_not.mp (refuseIf_eq_ok.mp htime), (Except.ok.inj ho').symm⟩
  · rintro ⟨x, hx, htime, rfl⟩
    refine ⟨some x, hx, ?_⟩
    simp [replayResolution, htime, pure, Except.pure, bind, Except.bind, refuseIf]

/-- The answer of a resolution is the event it read. -/
theorem answer_of_existingResolution (hq : reduceEvents P h = .ok q) {r : LeaseRequest}
    {x : EventV1 × VerificationArtifactResolutionV1}
    (hx : existingResolution q r.verificationLeaseId = .ok (some x)) :
    (VerificationCommand.resolve r).answer h = some x.1 := by
  rw [existingResolution_eq_ok hq] at hx
  have hhead := congrArg List.head? hx
  rw [List.head?_filter] at hhead
  rw [VerificationCommand.answer]
  clear hx hq
  induction h with
  | nil => simp [readResolutions] at hhead
  | cons e h ih =>
    rw [readResolutions, List.filterMap_cons] at hhead
    rw [List.find?_cons]
    cases he : e.resolution? with
    | none =>
      simp only [he, Option.map_none] at hhead
      simp only [VerificationCommand.answers, he, Option.map_none, reduceCtorEq, decide_false]
      exact ih hhead
    | some y =>
      simp only [he, Option.map_some, List.find?_cons] at hhead
      simp only [VerificationCommand.answers, he, Option.map_some, Option.some.injEq]
      by_cases hy : y.verificationLeaseId = r.verificationLeaseId
      · simp only [hy, decide_true, List.head?_cons, Option.some.injEq] at hhead ⊢
        rw [← hhead]
      · simp only [hy, decide_false] at hhead ⊢
        exact ih hhead

/-- A search that found an admission finds it in every longer list. -/
theorem existingAdmissionIn_append {a : AuthenticatedVerifierReceiptV1}
    {trust : VerifierTrustStore} {t : ℕ} {q q' : MissionProjection} {events more : List EventV1}
    {o : CommandOutcome} (h : existingAdmissionIn P a trust t q events = .ok (some o)) :
    ∃ o', existingAdmissionIn P a trust t q' (events ++ more) = .ok (some o') ∧
      o'.event = o.event := by
  induction events with
  | nil => simp [existingAdmissionIn] at h
  | cons e events ih =>
    obtain ⟨⟨profile, snapshot, snapshotId, signed, outputs⟩, hx, h⟩ := orRefuse_bind_eq_ok.mp h
    simp only at h
    rw [List.cons_append, existingAdmissionIn, bind_of_ok (orRefuse_eq_ok.mpr hx)]
    simp only
    split_ifs at h ⊢ with hlease hid
    · obtain ⟨hmatches, h⟩ := unit_bind_eq_ok.mp h
      obtain rfl := Option.some.inj (Except.ok.inj h)
      rw [hmatches]
      exact ⟨_, rfl, rfl⟩
    · simp [reject] at h
    · exact ih h

/-- A search passes over what it did not find. -/
theorem existingAdmissionIn_skip {a : AuthenticatedVerifierReceiptV1}
    {trust : VerifierTrustStore} {t : ℕ} {q q' : MissionProjection} {events more : List EventV1}
    (h : existingAdmissionIn P a trust t q events = .ok none) :
    existingAdmissionIn P a trust t q' (events ++ more) =
      existingAdmissionIn P a trust t q' more := by
  induction events with
  | nil => rfl
  | cons e events ih =>
    obtain ⟨⟨profile, snapshot, snapshotId, signed, outputs⟩, hx, h⟩ := orRefuse_bind_eq_ok.mp h
    simp only at h
    rw [List.cons_append, existingAdmissionIn, bind_of_ok (orRefuse_eq_ok.mpr hx)]
    simp only
    split_ifs at h ⊢ with hlease hid
    · obtain ⟨-, hreturn⟩ := unit_bind_eq_ok.mp h
      simp [pure, Except.pure] at hreturn
    · simp [reject] at h
    · exact ih h

/-- A search finds the first receipt of the lease. -/
theorem existingAdmissionIn_eq_some {a : AuthenticatedVerifierReceiptV1}
    {trust : VerifierTrustStore} {t : ℕ} {q : MissionProjection} {events : List EventV1}
    {o : CommandOutcome} (h : existingAdmissionIn P a trust t q events = .ok (some o)) :
    events.find? (fun e => e.receipt?.map VerifierReceiptV1.leaseId = some a.lease.leaseId) =
      some o.event ∧ o.replayed = true := by
  induction events with
  | nil => simp [existingAdmissionIn] at h
  | cons e events ih =>
    obtain ⟨⟨profile, snapshot, snapshotId, signed, outputs⟩, hx, h⟩ := orRefuse_bind_eq_ok.mp h
    have hreceipt := receipt?_of_admission? hx
    simp only at h hreceipt
    rw [List.find?_cons]
    split_ifs at h with hlease hid
    · obtain ⟨-, h⟩ := unit_bind_eq_ok.mp h
      obtain rfl := Option.some.inj (Except.ok.inj h)
      simp [hreceipt, hlease]
    · simp [reject] at h
    · simpa [hreceipt, hlease] using ih h

theorem admissionEvents_find (hq : reduceEvents P h = .ok q) (r : AdmitRequest) :
    q.final.verificationReceiptAdmissionEvents.find? (fun e =>
      e.receipt?.map VerifierReceiptV1.leaseId = some r.verificationLeaseId) =
      (VerificationCommand.admitReceipt r).answer h := by
  obtain ⟨first, rest, rfl, -, run⟩ := reduceEvents_eq_ok hq
  rw [(reduceLoop_records run).receipts]
  refine find?_ofKinds _ fun e => and_iff_right_of_imp fun he => ?_
  obtain ⟨x, hx, -⟩ := Option.map_eq_some_iff.mp he
  unfold EventV1.receipt? at hx
  split at hx
  · rename_i hp
    simp [EventBody.kind, hp, Payload.kind]
  · simp at hx

/-- The lease of a retained receipt is consumed. -/
theorem consumed_of_answer (hq : reduceEvents P h = .ok q) {r : AdmitRequest} {e : EventV1}
    (he : (VerificationCommand.admitReceipt r).answer h = some e) :
    r.verificationLeaseId ∈ q.final.consumedVerificationLeaseIds := by
  obtain ⟨first, rest, rfl, -, run⟩ := reduceEvents_eq_ok hq
  obtain ⟨b, hb, hr⟩ := reduceLoop_follows run
  have hmem := List.mem_of_find?_eq_some he
  have hanswers : (VerificationCommand.admitReceipt r).answers e :=
    of_decide_eq_true (List.find?_some (p := fun e => decide (_ : Prop)) he)
  obtain ⟨x, hx, hid⟩ := Option.map_eq_some_iff.mp hanswers
  obtain ⟨pre, post, hsplit⟩ := List.append_of_mem hmem
  have hmoves : leaseMoves (first :: rest) =
      leaseMoves pre ++ .consume x.leaseId :: leaseMoves post := by
    rw [hsplit]
    simp [leaseMoves, leaseMove_of_receipt hx]
  rw [hmoves] at hb
  obtain ⟨k, -, -, -, -, -, hconsumed⟩ := hb.consume_inv
  exact hid ▸ (hr.status .consumed x.leaseId).mpr hconsumed

/-! ## Closure -/

theorem step_phase {s s' : Reduction} {e : EventV1} (h : step P s e = .ok s') :
    s'.phase ∈ nextPhase s.phase e.kind := by
  obtain ⟨-, phase, t, hphase, -, rfl⟩ := step_turn h
  exact transition_eq_ok hphase

/-- A terminal stream has no longer one. -/
theorem terminal_longer {h' : List EventV1} {q' : MissionProjection}
    (hq : reduceEvents P h = .ok q) (hq' : reduceEvents P h' = .ok q') (hp : h <+: h')
    (hterminal : q.final.phase.isTerminal) : h' = h := by
  obtain ⟨more, rfl⟩ := hp
  have hmore := reduceEvents_append hq hq'
  cases more with
  | nil => exact List.append_nil h
  | cons e more =>
    obtain ⟨m, hstep, -⟩ := foldlM_cons_eq_ok.mp hmore
    exact absurd hterminal (nextPhase_terminal _ _ _ (step_phase hstep))

/-- The event that closed a mission is its last one. -/
theorem terminal_of_closed (hq : reduceEvents P h = .ok q) {e : EventV1} (he : e ∈ h)
    (hclosed : e.closedStatus? ≠ none) : q.final.terminal = some e := by
  have hk : e.kind = .missionClosed := by
    unfold EventV1.closedStatus? at hclosed
    split at hclosed
    · rename_i hp
      simp [EventBody.kind, hp, Payload.kind]
    · exact absurd rfl hclosed
  obtain ⟨first, rest, rfl, -, run⟩ := reduceEvents_eq_ok hq
  obtain ⟨pre, post, hsplit⟩ := List.append_of_mem he
  have hrun := run
  rw [hsplit] at hrun
  obtain ⟨m, m', -, hstep, hpost⟩ := foldlM_split hrun
  have hterminal : m'.phase.isTerminal :=
    (nextPhase_isTerminal _ _ _ (step_phase hstep)).mpr (by simp [hk])
  cases post with
  | nil =>
    obtain rfl : m' = q.final := Except.ok.inj hpost
    rw [(reduceLoop_staged run).terminal, if_pos hterminal, hsplit]
    simp
  | cons x post =>
    obtain ⟨m'', hx, -⟩ := foldlM_cons_eq_ok.mp hpost
    exact absurd hterminal (nextPhase_terminal _ _ _ (step_phase hx))

theorem existingClosure_eq_some {t : ℕ} {o : CommandOutcome} :
    existingClosure t q = .ok (some o) ↔
      ∃ e status, q.final.terminal = some e ∧ e.closedStatus? = some status ∧
        ¬(status = .completed ∧ ¬(q.final.candidates = [] ∧ q.final.noVerificationEvents)) ∧
        e.decisionTime = t ∧
        o = { projection := q, event := e, value := .closure status, replayed := true } := by
  unfold existingClosure
  cases hterminal : q.final.terminal with
  | none => simp
  | some e =>
    cases hstatus : e.closedStatus? with
    | none => simp [hstatus]
    | some status =>
      simp only [Option.bind_some, Option.map_some, hstatus, unit_bind_eq_ok, refuseIf_eq_ok,
        not_not, Option.some.injEq]
      constructor
      · rintro ⟨hcompleted, htime, ho⟩
        exact ⟨e, status, rfl, hstatus, hcompleted, htime,
          (Option.some.inj (Except.ok.inj ho)).symm⟩
      · rintro ⟨_, status', rfl, hstatus', hcompleted, htime, rfl⟩
        obtain rfl := Option.some.inj (hstatus.symm.trans hstatus')
        exact ⟨hcompleted, htime, rfl⟩

/-- The terminal event is retained. -/
theorem mem_of_terminal (hq : reduceEvents P h = .ok q) {e : EventV1}
    (he : q.final.terminal = some e) : e ∈ h ∧ q.final.phase.isTerminal := by
  obtain ⟨first, rest, rfl, -, run⟩ := reduceEvents_eq_ok hq
  rw [(reduceLoop_staged run).terminal] at he
  split at he
  · exact ⟨List.mem_of_getLast? he, by assumption⟩
  · simp at he

theorem answer_of_terminal (hq : reduceEvents P h = .ok q) {r : CloseRequest} {e : EventV1}
    (he : q.final.terminal = some e) (hclosed : e.closedStatus? ≠ none) :
    (VerificationCommand.close r).answer h = some e := by
  have hmem := (mem_of_terminal hq he).1
  cases hanswer : (VerificationCommand.close r).answer h with
  | none =>
    have hnot := List.find?_eq_none.mp hanswer e hmem
    exact absurd (decide_eq_true (show (VerificationCommand.close r).answers e from hclosed)) hnot
  | some x =>
    have hanswers : (VerificationCommand.close r).answers x :=
      of_decide_eq_true (List.find?_some (p := fun e => decide (_ : Prop)) hanswer)
    have hx := terminal_of_closed hq (List.mem_of_find?_eq_some hanswer) hanswers
    rw [hx] at he
    exact he

/-- The closing status of a verification mission is one of coverage. -/
theorem verificationClosureStatus_ne {status : ClosedStatus}
    (hs : verificationClosureStatus q = .ok status) : status ≠ .completed := by
  simp only [verificationClosureStatus, unit_bind_eq_ok] at hs
  obtain ⟨-, -, hreturn⟩ := hs
  obtain rfl := Except.ok.inj hreturn
  split <;> simp

end Lookups

/-! ## Contexts -/

/-- The lookup of a command's earlier event. -/
abbrev Lookup : Type := MissionProjection → Except CommandError (Option CommandOutcome)

/-- What the draft of a command has checked of a projection when it looks for an earlier event,
but for the disposition of the lease and the phase, with the lookup it makes. -/
inductive Context (P : Primitives) (q : MissionProjection) : VerificationCommand → Lookup → Prop
  | issue {r grant admission candidateEvent key expiresAt}
      (h : IssueContext r q grant admission candidateEvent key expiresAt) :
      Context P q (.issue r) (matchingExisting P r key.verifierId expiresAt)
  | expire {r lease} (h : leaseById q r.verificationLeaseId = .ok lease) :
      Context P q (.expire r) (existingDisposition expiryEvents r none)
  | cancel {r reasonCode lease} (h : leaseById q r.verificationLeaseId = .ok lease) :
      Context P q (.cancel r reasonCode)
        (existingDisposition cancellationEvents r (some reasonCode))
  | reassign {r predecessor grant admission expiresAt}
      (h : ReassignContext r q predecessor grant admission expiresAt) :
      Context P q (.reassign r) (existingReassignment P r predecessor expiresAt)
  | resolve {r lease grant admission} (h : ResolveContext r q lease grant admission) :
      Context P q (.resolve r) (resolutionLookup r)
  | admitReceipt {r lease resolution a} (h : AdmitContext P r q lease resolution a) :
      Context P q (.admitReceipt r) (existingAdmission P a r.decisionTrustStore r.decisionTime)
  | close {r authority} (h : recoveryAuthority q = .ok authority) :
      Context P q (.close r) (existingClosure r.decisionTime)

section Contexts

variable {h h' : List EventV1} {q q' : MissionProjection} {c : VerificationCommand} {f : Lookup}

theorem Context.longer (hc : Context P q c f) (hq : reduceEvents P h = .ok q)
    (hq' : reduceEvents P h' = .ok q') (hp : h <+: h') : Context P q' c f := by
  cases hc with
  | issue hx =>
    exact .issue { hx with
      authority := (authorityEvidence_longer hq hq' hp _).trans hx.authority
      candidate := candidateEventOf_longer hq hq' hp hx.candidate }
  | expire hx => exact .expire (leaseById_longer hq hq' hp hx)
  | cancel hx => exact .cancel (leaseById_longer hq hq' hp hx)
  | reassign hx =>
    exact .reassign { hx with
      found := leaseById_longer hq hq' hp hx.found
      authority := (recoveryAuthority_longer hq hq' hp).trans hx.authority }
  | resolve hx =>
    exact .resolve ⟨leaseById_longer hq hq' hp hx.found,
      assertCandidateRetained_longer hq hq' hp hx.candidate,
      (authorityEvidence_longer hq hq' hp _).trans hx.authority⟩
  | admitReceipt hx =>
    exact .admitReceipt { hx with
      found := leaseById_longer hq hq' hp hx.found
      candidate := assertCandidateRetained_longer hq hq' hp hx.candidate
      resolved := artifactResolutionOf_longer hq hq' hp hx.resolved }
  | close hx => exact .close ((recoveryAuthority_longer hq hq' hp).trans hx)

/-- The lease of an admission's context is the one the request names. -/
theorem AdmitContext.leaseId {r : AdmitRequest} {lease : VerificationLeaseV1}
    {resolution : VerificationArtifactResolutionV1} {a : AuthenticatedVerifierReceiptV1}
    (hx : AdmitContext P r q lease resolution a) (hq : reduceEvents P h = .ok q) :
    a.lease.leaseId = r.verificationLeaseId := by
  rw [authenticateVerifierReceipt_eq hx.authenticated]
  exact (leaseById_eq_ok hq hx.found).2.1

/-- What a lookup finds is the answer of the stream. -/
theorem Context.found (hc : Context P q c f) (hq : reduceEvents P h = .ok q) {o : CommandOutcome}
    (hf : f q = .ok (some o)) : c.answer h = some o.event ∧ o.replayed = true := by
  cases hc with
  | issue hx =>
    obtain ⟨e, lease, trust, snapshotId, he, -, -, rfl⟩ := (matchingExisting_eq_some hq).mp hf
    exact ⟨he, rfl⟩
  | expire hx =>
    obtain ⟨e, lease, he, -, -, rfl⟩ :=
      (existingDisposition_eq_some (expiryEvents_find hq _)).mp hf
    exact ⟨he, rfl⟩
  | cancel hx =>
    obtain ⟨e, lease, he, -, -, rfl⟩ :=
      (existingDisposition_eq_some (cancellationEvents_find hq _ _)).mp hf
    exact ⟨he, rfl⟩
  | reassign hx =>
    have hid := (leaseById_eq_ok hq hx.found).2.1
    obtain ⟨e, successor, trust, snapshotId, he, -, -, rfl⟩ :=
      (existingReassignment_eq_some hq hid).mp hf
    exact ⟨he, rfl⟩
  | resolve hx =>
    obtain ⟨x, hx, -, rfl⟩ := resolutionLookup_eq_some.mp hf
    exact ⟨answer_of_existingResolution hq hx, rfl⟩
  | admitReceipt hx =>
    obtain ⟨he, hreplayed⟩ := existingAdmissionIn_eq_some hf
    rw [hx.leaseId hq, admissionEvents_find hq] at he
    exact ⟨he, hreplayed⟩
  | close hx =>
    obtain ⟨e, status, he, hstatus, -, -, rfl⟩ := existingClosure_eq_some.mp hf
    exact ⟨answer_of_terminal hq he (by simp [hstatus]), rfl⟩

/-- What a lookup finds, it finds on every longer stream. -/
theorem Context.stable (hc : Context P q c f) (hq : reduceEvents P h = .ok q)
    (hq' : reduceEvents P h' = .ok q') (hp : h <+: h') {o : CommandOutcome}
    (hf : f q = .ok (some o)) : ∃ o', f q' = .ok (some o') ∧ o'.event = o.event := by
  cases hc with
  | issue hx =>
    obtain ⟨e, lease, trust, snapshotId, he, hgrant, hmatches, rfl⟩ :=
      (matchingExisting_eq_some hq).mp hf
    exact ⟨_, (matchingExisting_eq_some hq').mpr
      ⟨e, lease, trust, snapshotId, answer_longer hp he, hgrant, hmatches, rfl⟩, rfl⟩
  | expire hx =>
    obtain ⟨e, lease, he, hmatches, hlease, rfl⟩ :=
      (existingDisposition_eq_some (expiryEvents_find hq _)).mp hf
    exact ⟨_, (existingDisposition_eq_some (expiryEvents_find hq' _)).mpr
      ⟨e, lease, answer_longer hp he, hmatches, leaseById_longer hq hq' hp hlease, rfl⟩, rfl⟩
  | @cancel r reasonCode lease hx =>
    obtain ⟨e, lease, he, hmatches, hlease, rfl⟩ :=
      (existingDisposition_eq_some (cancellationEvents_find hq r reasonCode)).mp hf
    exact ⟨_, (existingDisposition_eq_some (cancellationEvents_find hq' r reasonCode)).mpr
      ⟨e, lease, answer_longer hp he, hmatches, leaseById_longer hq hq' hp hlease, rfl⟩, rfl⟩
  | reassign hx =>
    have hid := (leaseById_eq_ok hq hx.found).2.1
    obtain ⟨e, successor, trust, snapshotId, he, hgrant, hmatches, rfl⟩ :=
      (existingReassignment_eq_some hq hid).mp hf
    exact ⟨_, (existingReassignment_eq_some hq' hid).mpr
      ⟨e, successor, trust, snapshotId, answer_longer hp he, hgrant, hmatches, rfl⟩, rfl⟩
  | resolve hx =>
    obtain ⟨x, hx, htime, rfl⟩ := resolutionLookup_eq_some.mp hf
    exact ⟨_, resolutionLookup_eq_some.mpr
      ⟨x, existingResolution_longer hq hq' hp hx, htime, rfl⟩, rfl⟩
  | admitReceipt hx =>
    obtain ⟨first, rest, rfl, -, run⟩ := reduceEvents_eq_ok hq
    obtain ⟨first', rest', rfl, -, run'⟩ := reduceEvents_eq_ok hq'
    rw [existingAdmission, (reduceLoop_records run).receipts] at hf
    obtain ⟨more, hmore⟩ : ofKinds [.verifierReceiptAdmitted] (first :: rest) <+:
        ofKinds [.verifierReceiptAdmitted] (first' :: rest') := hp.filter _
    rw [existingAdmission, (reduceLoop_records run').receipts, ← hmore]
    exact existingAdmissionIn_append hf
  | close hx =>
    obtain ⟨e, status, he, hstatus, hcompleted, htime, rfl⟩ := existingClosure_eq_some.mp hf
    obtain rfl := terminal_longer hq hq' hp (mem_of_terminal hq he).2
    obtain rfl := Except.ok.inj (hq.symm.trans hq')
    exact ⟨_, existingClosure_eq_some.mpr ⟨e, status, he, hstatus, hcompleted, htime, rfl⟩, rfl⟩

end Contexts

/-! ## Proposals -/

/-- What is known of a proposal for the stream `h`, with the lookup `f` of its command. -/
structure Proposed (P : Primitives) (c : VerificationCommand) (h : List EventV1)
    (q : MissionProjection) (p : Proposal) (f : Lookup) : Prop where
  lookup : p.existing = f
  head : headDigest h = c.expectedHead
  mission : p.event.missionId = q.final.missionId
  finds : ∀ q', reduceEvents P (h ++ [p.event]) = .ok q' →
    ∃ o, f q' = .ok (some o) ∧ o.event = p.event
  committed : ∀ t q' o, reduceEvents P t = .ok q' → p.committed q' = .ok o →
    o.event ∈ t ∧ o.event.eventDigest = p.event.eventDigest ∧ o.replayed = false

section Proposals

variable {h : List EventV1} {q : MissionProjection} {c : VerificationCommand} {f : Lookup}
  {p : Proposal}

/-- The retained event that a command returns after its append. -/
theorem committedOutcome_eq_ok {kinds : List EventKind} {events t : List EventV1} {e : EventV1}
    {what : String} {value : EventV1 → Except CommandError CommandValue} {o : CommandOutcome}
    (hevents : events = ofKinds kinds t) (ho : committedOutcome events q e what value = .ok o) :
    o.event ∈ t ∧ o.event.eventDigest = e.eventDigest ∧ o.replayed = false := by
  obtain ⟨x, hx, ho⟩ := orRefuse_bind_eq_ok.mp ho
  obtain ⟨v, -, ho⟩ := bind_eq_ok.mp ho
  obtain rfl := Except.ok.inj ho
  have hmem := List.mem_of_find?_eq_some hx
  rw [hevents] at hmem
  exact ⟨(List.mem_filter.mp hmem).1, by simpa using List.find?_some hx, rfl⟩

/-- A created event follows the head the command expects, and has the mission's identity. -/
theorem proposed_position {t : ℕ} {payload : Payload} {what : String}
    (hq : reduceEvents P h = .ok q) (he : createEvent P h q t payload = .ok p.event)
    (hhead : assertHead h c.expectedHead t what = .ok ()) :
    headDigest h = c.expectedHead ∧ p.event.missionId = q.final.missionId := by
  obtain ⟨hnext, -⟩ := createEvent_eq_ok hq he
  simp only [assertHead, unit_bind_eq_ok, refuseIf_eq_ok, not_not] at hhead
  exact ⟨hhead.1, by rw [hnext]; rfl⟩

theorem IssueDraft.proposed {r : IssueRequest} {grant : AuthorityGrantV1}
    {admission : AuthorityAdmissionV1} {candidateEvent : EventV1} {key : TrustedVerifierKey}
    {expiresAt : ℕ} {lease : VerificationLeaseV1} (hq : reduceEvents P h = .ok q)
    (hd : IssueDraft P W r h q p grant admission candidateEvent key expiresAt lease) :
    Proposed P (.issue r) h q p (matchingExisting P r key.verifierId expiresAt) := by
  obtain ⟨hhead, hmission⟩ := proposed_position (c := .issue r) hq hd.created hd.head
  obtain ⟨hnext, -⟩ := createEvent_eq_ok hq hd.created
  obtain ⟨id, hlease⟩ := hd.derived
  have hanswers : (VerificationCommand.issue r).answers p.event := by
    rw [hnext, hlease]
    rfl
  have hanswer := answer_snoc (matchingExisting_absent hq hd.existing) hanswers
  refine ⟨hd.lookup, hhead, hmission, fun q' hq' => ?_, fun t q' o ht ho => ?_⟩
  · have hgrant : p.event.leaseGrant? = some (lease, r.verifierTrustStore,
        P.trustSnapshotId r.verifierTrustStore) := by
      rw [hnext]
      rfl
    refine ⟨_, (matchingExisting_eq_some hq').mpr ⟨p.event, lease, _, _, hanswer, hgrant, ?_, rfl⟩,
      rfl⟩
    rw [hlease]
    exact ⟨rfl, rfl, rfl, rfl, rfl, rfl, rfl, rfl, rfl, rfl, rfl⟩
  · rw [hd.committed] at ho
    obtain ⟨first, rest, rfl, -, run⟩ := reduceEvents_eq_ok ht
    exact committedOutcome_eq_ok (reduceLoop_records run).leases ho

theorem DispositionDraft.proposed {events : MissionProjection → List EventV1} {r : LeaseRequest}
    {reasonCode : Option String} {payload : Payload} {lease : VerificationLeaseV1}
    {kinds : List EventKind} (hq : reduceEvents P h = .ok q)
    (hd : DispositionDraft P events r reasonCode payload h q p lease)
    (hcommand : c.expectedHead = r.expectedHead)
    (hanswers : ∀ e : EventV1, e.payload = payload → c.answers e ∧
      (reasonCode = none ∨ e.disposition?.map Prod.snd = some reasonCode))
    (hfind : ∀ t q', reduceEvents P t = .ok q' → (events q').find? (fun e =>
      e.disposition?.map Prod.fst = some r.verificationLeaseId) = c.answer t)
    (hevents : ∀ t q', reduceEvents P t = .ok q' → events q' = ofKinds kinds t) :
    Proposed P c h q p (existingDisposition events r reasonCode) := by
  obtain ⟨-, hhead⟩ := assertAppendable_eq_ok hd.appendable
  obtain ⟨hhead, hmission⟩ := proposed_position hq hd.created (hcommand ▸ hhead)
  obtain ⟨hnext, -⟩ := createEvent_eq_ok hq hd.created
  have hpayload : p.event.payload = payload := by rw [hnext]; rfl
  obtain ⟨hanswers, hreason⟩ := hanswers p.event hpayload
  have hanswer := answer_snoc (existingDisposition_absent (hfind h q hq) hd.existing) hanswers
  refine ⟨hd.lookup, hhead, hmission, fun q' hq' => ?_, fun t q' o ht ho => ?_⟩
  · have hlease := leaseById_longer hq hq' (List.prefix_append h [p.event]) hd.found
    have htime : p.event.decisionTime = r.decisionTime := by rw [hnext]; rfl
    exact ⟨_, (existingDisposition_eq_some (hfind _ q' hq')).mpr
      ⟨p.event, lease, hanswer, ⟨htime, hreason⟩, hlease, rfl⟩, rfl⟩
  · rw [hd.committed] at ho
    exact committedOutcome_eq_ok (hevents t q' ht) ho

theorem ReassignDraft.proposed {r : ReassignRequest} {predecessor : VerificationLeaseV1}
    {grant : AuthorityGrantV1} {admission : AuthorityAdmissionV1} {expiresAt : ℕ}
    {reason : ReassignmentReason} {key : TrustedVerifierKey} {lease : VerificationLeaseV1}
    (hq : reduceEvents P h = .ok q)
    (hd : ReassignDraft P W r h q p predecessor grant admission expiresAt reason key lease) :
    Proposed P (.reassign r) h q p (existingReassignment P r predecessor expiresAt) := by
  obtain ⟨-, hhead⟩ := assertAppendable_eq_ok hd.appendable
  obtain ⟨hhead, hmission⟩ := proposed_position (c := .reassign r) hq hd.created hhead
  obtain ⟨hnext, -⟩ := createEvent_eq_ok hq hd.created
  obtain ⟨id, hlease⟩ := hd.derived
  have hid := (leaseById_eq_ok hq hd.found).2.1
  have hanswers : (VerificationCommand.reassign r).answers p.event := by
    rw [hnext]
    exact congrArg some hid
  have hanswer := answer_snoc (existingReassignment_absent hq hid hd.existing) hanswers
  refine ⟨hd.lookup, hhead, hmission, fun q' hq' => ?_, fun t q' o ht ho => ?_⟩
  · have hgrant : p.event.leaseGrant? = some (lease, r.verifierTrustStore,
        P.trustSnapshotId r.verifierTrustStore) := by
      rw [hnext]
      rfl
    have htime : p.event.decisionTime = r.decisionTime := by rw [hnext]; rfl
    refine ⟨_, (existingReassignment_eq_some hq' hid).mpr
      ⟨p.event, lease, _, _, hanswer, hgrant, ?_, rfl⟩, rfl⟩
    rw [hlease]
    exact ⟨htime, rfl, rfl, rfl, rfl, rfl, rfl⟩
  · rw [hd.committed] at ho
    obtain ⟨first, rest, rfl, -, run⟩ := reduceEvents_eq_ok ht
    exact committedOutcome_eq_ok (reduceLoop_records run).reassignments ho

theorem ResolveDraft.proposed {r : LeaseRequest} {lease : VerificationLeaseV1}
    {grant : AuthorityGrantV1} {admission : AuthorityAdmissionV1} {opened : EventV1}
    {snapshot : TargetSnapshotV1} {resolution : VerificationArtifactResolutionV1}
    (hq : reduceEvents P h = .ok q)
    (hd : ResolveDraft P r h q p lease grant admission opened snapshot resolution) :
    Proposed P (.resolve r) h q p (resolutionLookup r) := by
  obtain ⟨hhead, hmission⟩ := proposed_position (c := .resolve r) hq hd.created hd.head
  obtain ⟨hnext, -⟩ := createEvent_eq_ok hq hd.created
  have hid := (leaseById_eq_ok hq hd.found).2.1
  have hresolution : p.event.resolution? = some resolution := by rw [hnext]; rfl
  refine ⟨hd.lookup, hhead, hmission, fun q' hq' => ?_, fun t q' o ht ho => ?_⟩
  · have hempty := existingResolution_absent hq hd.existing
    have hx : existingResolution q' r.verificationLeaseId = .ok (some (p.event, resolution)) := by
      rw [existingResolution_eq_ok hq', readResolutions, List.filterMap_append,
        List.filter_append, ← readResolutions, hempty]
      simp [hresolution, hd.resolved.leaseId.trans hid]
    exact ⟨_, resolutionLookup_eq_some.mpr ⟨_, hx, hd.resolved.time, rfl⟩, rfl⟩
  · rw [hd.committed] at ho
    obtain ⟨first, rest, rfl, -, run⟩ := reduceEvents_eq_ok ht
    exact committedOutcome_eq_ok (reduceLoop_records run).resolutions ho

theorem AdmitDraft.proposed {r : AdmitRequest} {lease : VerificationLeaseV1}
    {resolution : VerificationArtifactResolutionV1} {a : AuthenticatedVerifierReceiptV1}
    {grant : AuthorityGrantV1} {admission : AuthorityAdmissionV1}
    {outputs : VerificationOutputArtifactsV1} (hq : reduceEvents P h = .ok q)
    (hd : AdmitDraft P r h q p lease resolution a grant admission outputs) :
    Proposed P (.admitReceipt r) h q p
      (existingAdmission P a r.decisionTrustStore r.decisionTime) := by
  obtain ⟨hhead, hmission⟩ := proposed_position (c := .admitReceipt r) hq hd.created hd.head
  obtain ⟨hnext, -⟩ := createEvent_eq_ok hq hd.created
  refine ⟨hd.lookup, hhead, hmission, fun q' hq' => ?_, fun t q' o ht ho => ?_⟩
  · have hadmission : p.event.admission? = some (receiptAdmissionProfileV1, r.decisionTrustStore,
        P.trustSnapshotId r.decisionTrustStore, a.signedReceipt, outputs) := by
      rw [hnext]
      rfl
    have hkind : p.event.kind = .verifierReceiptAdmitted := by rw [hnext]; rfl
    have htime : p.event.decisionTime = r.decisionTime := by rw [hnext]; rfl
    have hlease : a.signedReceipt.receipt.leaseId = a.lease.leaseId := by
      rw [authenticateVerifierReceipt_eq hd.authenticated]
      exact (authenticateVerifierReceipt_inv P hd.authenticated).2.2.1
    have hexisting := hd.existing
    obtain ⟨first, rest, rfl, -, run⟩ := reduceEvents_eq_ok hq
    obtain ⟨first', rest', -, -, run'⟩ := reduceEvents_eq_ok hq'
    rw [existingAdmission, (reduceLoop_records run).receipts] at hexisting
    rw [existingAdmission, (reduceLoop_records run').receipts, ofKinds_snoc, if_pos (by
      simp [hkind]), existingAdmissionIn_skip hexisting, existingAdmissionIn,
      bind_of_ok (orRefuse_eq_ok.mpr hadmission)]
    simp only
    rw [if_pos hlease, refuseIf_bind_of_not (not_not.mpr (by
      simp [htime, AuthenticatedVerifierReceiptV1.receipt]))]
    exact ⟨_, rfl, rfl⟩
  · rw [hd.committed] at ho
    obtain ⟨first, rest, rfl, -, run⟩ := reduceEvents_eq_ok ht
    exact committedOutcome_eq_ok (reduceLoop_records run).receipts ho

theorem CloseDraft.proposed {r : CloseRequest} {status : ClosedStatus}
    (hq : reduceEvents P h = .ok q) (hd : CloseDraft P r h q p status) :
    Proposed P (.close r) h q p (existingClosure r.decisionTime) := by
  obtain ⟨hhead, hmission⟩ := proposed_position (c := .close r) hq hd.created hd.head
  obtain ⟨hnext, -⟩ := createEvent_eq_ok hq hd.created
  have hstatus : p.event.closedStatus? = some status := by rw [hnext]; rfl
  refine ⟨hd.lookup, hhead, hmission, fun q' hq' => ?_, fun t q' o ht ho => ?_⟩
  · have hterminal := terminal_of_closed hq' (List.mem_append_right _ (List.mem_singleton_self _))
      (by simp [hstatus])
    have htime : p.event.decisionTime = r.decisionTime := by rw [hnext]; rfl
    have hcoverage : ¬(status = .completed ∧ ¬(q'.final.candidates = [] ∧
        q'.final.noVerificationEvents)) :=
      fun hcompleted => verificationClosureStatus_ne hd.coverage hcompleted.1
    exact ⟨_, existingClosure_eq_some.mpr
      ⟨p.event, status, hterminal, hstatus, hcoverage, htime, rfl⟩, rfl⟩
  · rw [hd.committed] at ho
    obtain ⟨x, hx, ho⟩ := orRefuse_bind_eq_ok.mp ho
    obtain rfl := Except.ok.inj ho
    obtain ⟨hterminal, hdigest⟩ := Option.filter_eq_some_iff.mp hx
    exact ⟨(mem_of_terminal ht hterminal).1, of_decide_eq_true hdigest, rfl⟩

end Proposals

/-! ## Drafts -/

section Drafts

variable {h : List EventV1} {q : MissionProjection} {c : VerificationCommand} {f : Lookup}

/-- A draft looks for an earlier event in its context : it replays what it finds, and proposes
when it finds nothing. -/
theorem draft_context {d : Draft} {s s' : S} (hq : reduceEvents P h = .ok q)
    (hd : Ends H s (c.draft P W h q) (.ok d) s') :
    ∃ f, Context P q c f ∧ ((∃ o, d = .replay o ∧ f q = .ok (some o)) ∨
      ∃ p, d = .propose p ∧ Proposed P c h q p f) := by
  cases c with
  | issue r =>
    obtain ⟨grant, admission, candidateEvent, key, expiresAt, hx,
      ⟨o, rfl, ho⟩ | ⟨p, lease, rfl, hp⟩⟩ :=
      draftIssue_eq_ok (ends_ofExcept.mp hd).1
    · exact ⟨_, .issue hx, .inl ⟨o, rfl, ho⟩⟩
    · exact ⟨_, .issue hx, .inr ⟨p, rfl, hp.proposed hq⟩⟩
  | expire r =>
    obtain ⟨lease, hx, ⟨o, rfl, ho⟩ | ⟨p, rfl, -, hp⟩⟩ := draftExpire_eq_ok (ends_ofExcept.mp hd).1
    · exact ⟨_, .expire hx, .inl ⟨o, rfl, ho⟩⟩
    · refine ⟨_, .expire hx, .inr ⟨p, rfl, hp.proposed hq rfl (fun e he => ?_)
        (fun t q' ht => expiryEvents_find ht r) fun t q' ht => expiryEvents_eq ht⟩⟩
      simp [VerificationCommand.answers, EventBody.kind, EventV1.disposition?, he, Payload.kind]
  | cancel r reasonCode =>
    obtain ⟨lease, hx, ⟨o, rfl, ho⟩ | ⟨p, rfl, -, hp⟩⟩ := draftCancel_eq_ok (ends_ofExcept.mp hd).1
    · exact ⟨_, .cancel hx, .inl ⟨o, rfl, ho⟩⟩
    · refine ⟨_, .cancel hx, .inr ⟨p, rfl, hp.proposed hq rfl (fun e he => ?_)
        (fun t q' ht => cancellationEvents_find ht r reasonCode) fun t q' ht =>
          cancellationEvents_eq ht⟩⟩
      simp [VerificationCommand.answers, EventBody.kind, EventV1.disposition?, he, Payload.kind]
  | reassign r =>
    obtain ⟨predecessor, grant, admission, expiresAt, hx, ⟨o, rfl, ho⟩ |
      ⟨p, reason, key, lease, rfl, hp⟩⟩ := draftReassign_eq_ok (ends_ofExcept.mp hd).1
    · exact ⟨_, .reassign hx, .inl ⟨o, rfl, ho⟩⟩
    · exact ⟨_, .reassign hx, .inr ⟨p, rfl, hp.proposed hq⟩⟩
  | resolve r =>
    obtain ⟨lease, grant, admission, hx, -, ⟨o, rfl, ho⟩ |
      ⟨p, opened, snapshot, resolution, rfl, hp⟩⟩ := draftResolve_ends hd
    · exact ⟨_, .resolve hx, .inl ⟨o, rfl, ho⟩⟩
    · exact ⟨_, .resolve hx, .inr ⟨p, rfl, hp.proposed hq⟩⟩
  | admitReceipt r =>
    obtain ⟨lease, resolution, a, hx, ⟨o, rfl, ho⟩ | ⟨p, grant, admission, outputs, rfl, hp⟩⟩ :=
      draftAdmit_ends hd
    · exact ⟨_, .admitReceipt hx, .inl ⟨o, rfl, ho⟩⟩
    · exact ⟨_, .admitReceipt hx, .inr ⟨p, rfl, hp.proposed hq⟩⟩
  | close r =>
    obtain ⟨authority, hx, ⟨o, rfl, ho⟩ | ⟨p, status, rfl, hp⟩⟩ :=
      draftClose_eq_ok (ends_ofExcept.mp hd).1
    · exact ⟨_, .close hx, .inl ⟨o, rfl, ho⟩⟩
    · exact ⟨_, .close hx, .inr ⟨p, rfl, hp.proposed hq⟩⟩

/-- The states in which a command that has its event can be repeated : issuance while the mission
is not terminal, resolution while its lease is active, the other commands always. -/
def VerificationCommand.Repeatable (c : VerificationCommand) (q : MissionProjection) : Prop :=
  match c with
  | .issue _ => ¬q.final.phase.isTerminal
  | .resolve r => r.verificationLeaseId ∈ q.final.activeVerificationLeaseIds
  | _ => True

theorem nextPhase_assigned (k : EventKind) : ∀ p, ∀ q ∈ nextPhase p k,
    p = .awaitingVerification ∨ k = .verificationLeaseIssued ∨ k = .verificationLeaseReassigned →
      q = .awaitingVerification ∨ q.isTerminal := by
  cases k <;> decide

/-- A mission with a lease awaits verification until it ends. -/
theorem awaiting_of_created {first : EventV1} {events : List EventV1} {s : Reduction}
    (run : reduceLoop P first events = .ok s) (hne : createdLeases events ≠ []) :
    s.phase = .awaitingVerification ∨ s.phase.isTerminal := by
  refine foldlM_invariant (fun h s => createdLeases h ≠ [] →
    s.phase = .awaitingVerification ∨ s.phase.isTerminal) (by simp [createdLeases]) ?_ run hne
  intro h s e s' _ ih hstep hcreated
  have hphase := step_phase hstep
  refine nextPhase_assigned _ _ _ hphase ?_
  rw [createdLeases_snoc] at hcreated
  by_cases hh : createdLeases h = []
  · right
    have hlease : e.createdLease? ≠ none := by
      intro hnone
      simp [hh, hnone] at hcreated
    unfold EventV1.createdLease? at hlease
    split at hlease
    · rename_i hp
      simp [EventBody.kind, hp, Payload.kind]
    · rename_i hp
      simp [EventBody.kind, hp, Payload.kind]
    · exact absurd rfl hlease
  · exact .inl ((ih hh).resolve_right (nextPhase_terminal _ _ _ hphase))

/-- A draft whose lookup finds an event replays it, where the command can be repeated. -/
theorem Context.replays (hc : Context P q c f) (hq : reduceEvents P h = .ok q)
    (hlive : c.Repeatable q) {o : CommandOutcome} (hf : f q = .ok (some o)) :
    c.draft P W h q = Prog.done (.ok (.replay o)) := by
  have hanswer := (hc.found hq hf).1
  cases hc with
  | @issue r grant admission candidateEvent key expiresAt hx =>
    have hscanned : q.final.phase.scanned := by
      obtain ⟨first, rest, rfl, -, run⟩ := reduceEvents_eq_ok hq
      have hmem := List.mem_of_find?_eq_some hanswer
      have hanswers : (VerificationCommand.issue r).answers o.event :=
        of_decide_eq_true (List.find?_some (p := fun e => decide (_ : Prop)) hanswer)
      obtain ⟨l, hl, -⟩ := Option.map_eq_some_iff.mp hanswers
      have hne : createdLeases (first :: rest) ≠ [] :=
        List.ne_nil_of_mem (List.mem_filterMap.mpr ⟨o.event, hmem, hl⟩)
      exact .inr ((awaiting_of_created run hne).resolve_right hlive)
    have hdraft : draftIssue P W r h q = .ok (.replay o) := by
      rw [draftIssue, refuseIf_bind_of_not hlive, refuseIf_bind_of_not (not_not.mpr hscanned),
        bind_of_ok hx.authority]
      dsimp only
      rw [refuseIf_bind_of_not hx.authorized, refuseIf_bind_of_not (not_lt.mpr hx.wallclock),
        bind_of_ok (orRefuse_eq_ok.mpr hx.candidate), bind_of_ok hx.verifier,
        refuseIf_bind_of_not hx.producer]
      have hwindow := hx.window
      rw [hx.deadline] at hf hwindow
      rw [refuseIf_bind_of_not (not_lt.mpr hx.admitted),
        refuseIf_bind_of_not (not_le.mpr hwindow), bind_of_ok hf]
      rfl
    exact congrArg Prog.done hdraft
  | @expire r lease hx =>
    have hdraft : draftExpire P r h q = .ok (.replay o) := by
      rw [draftExpire, bind_of_ok hx, bind_of_ok hf]
      rfl
    exact congrArg Prog.done hdraft
  | @cancel r reasonCode lease hx =>
    have hdraft : draftCancel P r reasonCode h q = .ok (.replay o) := by
      rw [draftCancel, bind_of_ok hx, bind_of_ok hf]
      rfl
    exact congrArg Prog.done hdraft
  | @reassign r predecessor grant admission expiresAt hx =>
    have hdraft : draftReassign P W r h q = .ok (.replay o) := by
      rw [hx.deadline] at hf
      rw [draftReassign, bind_of_ok hx.found, bind_of_ok hx.authority]
      dsimp only
      rw [refuseIf_bind_of_not (not_lt.mpr hx.wallclock), bind_of_ok hf]
      rfl
    exact congrArg Prog.done hdraft
  | @resolve r lease grant admission hx =>
    obtain ⟨x, hexisting, htime, rfl⟩ := resolutionLookup_eq_some.mp hf
    have hactive : refuseIf (r.verificationLeaseId ∉ q.final.activeVerificationLeaseIds)
        (CommandError.rejected "verification_lease_inactive"
          "artifact resolution requires the active candidate-lineage lease") = .ok () :=
      refuseIf_eq_ok.mpr (not_not.mpr hlive)
    have hreplay : replayResolution q x r.decisionTime =
        .ok { projection := q, event := x.1, value := .resolution x.2, replayed := true } := by
      rw [replayResolution, refuseIf_bind_of_not (not_not.mpr htime)]
      rfl
    rw [VerificationCommand.draft, draftResolve, hx.found]
    change (ofExcept (assertCandidateRetained q lease.candidateId) >>= _) = _
    rw [hx.candidate]
    change (ofExcept (authorityEvidence q "artifact resolution requires") >>= _) = _
    rw [hx.authority]
    change (ofExcept (refuseIf _ _) >>= _) = _
    rw [hactive]
    change (ofExcept (existingResolution q r.verificationLeaseId) >>= _) = _
    rw [hexisting]
    change (ofExcept (replayResolution q x r.decisionTime) >>= _) = _
    rw [hreplay]
    rfl
  | @admitReceipt r lease resolution a hx =>
    have hconsumed := consumed_of_answer hq hanswer
    have hdisposition : refuseIf (r.verificationLeaseId ∉ q.final.activeVerificationLeaseIds ∧
        r.verificationLeaseId ∉ q.final.consumedVerificationLeaseIds)
        (CommandError.rejected "verification_lease_inactive"
          "receipt admission requires the active candidate-lineage lease") = .ok () :=
      refuseIf_eq_ok.mpr fun hnot => hnot.2 hconsumed
    have hauthenticated : (authenticateVerifierReceipt P r.signedReceipt r.decisionTrustStore
        lease resolution r.decisionTime).mapError (fun x =>
          CommandError.rejected x.reasonCode x.message) = .ok a :=
      mapError_eq_ok.mpr hx.authenticated
    rw [VerificationCommand.draft, draftAdmit, hx.found]
    change (ofExcept (assertCandidateRetained q lease.candidateId) >>= _) = _
    rw [hx.candidate]
    change (ofExcept (refuseIf _ _) >>= _) = _
    rw [hdisposition]
    change (ofExcept (artifactResolutionOf q r.verificationLeaseId) >>= _) = _
    rw [hx.resolved]
    change (ofExcept (Except.mapError _ _) >>= _) = _
    rw [hauthenticated]
    change (ofExcept (existingAdmission P a r.decisionTrustStore r.decisionTime q) >>= _) = _
    rw [hf]
    rfl
  | @close r authority hx =>
    have hdraft : draftClose P r h q = .ok (.replay o) := by
      rw [draftClose, bind_of_ok hx, bind_of_ok hf]
      rfl
    exact congrArg Prog.done hdraft

end Drafts

end Etzio
