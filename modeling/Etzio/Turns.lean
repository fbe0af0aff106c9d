import Etzio.Reducer

/-!
# Turns of the reducer's loop

`Turn` says what an accepted event does to the loop's variables, one constructor per
branch, with the checks it passed. `step_turn` reads every successful `step` as a header
check, a transition and a turn; the invariants of the loop are proved by cases on the turn
and never unfold a branch again.
-/

open CheckedRun

namespace Etzio

variable {P : Primitives}

/-- A key that was inserted is found with its value, every other one as before. -/
theorem Dict.lookup_insert {V : Type} (d : Dict V) (i j : Digest) (v : V) :
    AList.lookup i (AList.insert j v d) = if i = j then some v else AList.lookup i d := by
  split_ifs with h
  · subst h
    exact AList.lookup_insert d
  · exact AList.lookup_insert_ne h

/-! ## What a turn does -/

/-- The effect of `supersedePredecessor` : an active predecessor inside its window is
superseded, an expired or a cancelled one keeps its disposition. -/
inductive Supersession (s : Reduction) (e : EventV1) (predecessor : VerificationLeaseV1) :
    Reduction → Prop
  | active (hactive : predecessor.leaseId ∈ s.activeVerificationLeaseIds)
      (htime : e.decisionTime < predecessor.expiresAt) :
      Supersession s e predecessor { s with
        activeVerificationLeaseIds := s.activeVerificationLeaseIds.erase predecessor.leaseId
        supersededVerificationLeaseIds :=
          insert predecessor.leaseId s.supersededVerificationLeaseIds }
  | recovered (hactive : predecessor.leaseId ∉ s.activeVerificationLeaseIds)
      (hdisposed : predecessor.leaseId ∈ s.expiredVerificationLeaseIds ∨
        predecessor.leaseId ∈ s.cancelledVerificationLeaseIds) :
      Supersession s e predecessor s

/-- The checks that issuing and reassigning share, for the lease they retain. -/
structure LeaseAdmitted (s : Reduction) (e : EventV1) (lease : VerificationLeaseV1)
    (candidateEvent : EventV1) (admission : AuthorityAdmissionV1) (grant : AuthorityGrantV1) :
    Prop where
  hgrant : s.admittedGrant = some grant
  hadmission : s.admittedAdmission = some admission
  hauthority : ¬lacksVerificationAuthority admission grant
  hcandidate : s.candidateEventsById.lookup lease.candidateId = some candidateEvent
  hbindings : ¬s.foreignLease lease candidateEvent
  hissued : lease.issuedAt = e.decisionTime
  hwindow : insideAuthority admission grant lease
  hproducer : lease.candidateProducerId ≠ lease.verifierId
  hfresh : lease.leaseId ∉ s.verificationLeaseIds
  hcount : s.verificationLeaseEvents.length + 1 ≤ grant.maxCandidates

/-- The effect of one accepted event on the loop's variables, before `advance`. -/
inductive Turn (s : Reduction) (e : EventV1) : Reduction → Prop
  | authorityAdmitted {admission grant keyId signature}
      (hp : e.payload = .authorityAdmitted admission grant keyId signature) :
      Turn s e { s with admittedGrant := some grant, admittedAdmission := some admission }
  | missionOpened {snapshot} (hp : e.payload = .missionOpened snapshot) :
      Turn s e { s with targetSnapshot := some snapshot }
  | analysisLeaseIssued {lease grant} (hp : e.payload = .analysisLeaseIssued lease)
      (hgrant : s.admittedGrant = some grant) (hexpires : lease.expiresAt ≤ grant.expiresAt)
      (hbudget : lease.maxCandidates ≤ grant.maxCandidates)
      (hwindow : lease.issuedAt ≤ e.decisionTime ∧ e.decisionTime < lease.expiresAt) :
      Turn s e { s with analysisLease := some lease }
  | candidateRecorded {c lease} (hp : e.payload = .candidateRecorded c)
      (hfresh : c.candidateId ∉ s.candidateIds) (hlease : s.analysisLease = some lease)
      (hwindow : lease.issuedAt ≤ e.decisionTime ∧ e.decisionTime < lease.expiresAt)
      (hbudget : s.candidates.length + s.failures.length + 1 ≤ lease.maxCandidates) :
      Turn s e { s with
        candidateIds := insert c.candidateId s.candidateIds
        candidateEventsById := s.candidateEventsById.insert c.candidateId e
        candidates := s.candidates ++ [e] }
  | parseFailed {leaseId failure digest lease}
      (hp : e.payload = .parseFailed leaseId failure digest)
      (hlease : s.analysisLease = some lease)
      (hwindow : lease.issuedAt ≤ e.decisionTime ∧ e.decisionTime < lease.expiresAt)
      (hbudget : s.candidates.length + s.failures.length + 1 ≤ lease.maxCandidates) :
      Turn s e { s with failures := s.failures ++ [e] }
  | admissionRefused {reason stage} (hp : e.payload = .missionAdmissionRefused reason stage) :
      Turn s e { s with refusal := some e, terminal := some e }
  | stopped {reason} (hp : e.payload = .scanFailed reason ∨ e.payload = .scanTimedOut reason ∨
        e.payload = .scanCancelled reason ∨ e.payload = .budgetExhausted reason) :
      Turn s e { s with failure := some e, terminal := some e }
  | scanCompleted {version bytes candidates files failures}
      (hp : e.payload = .scanCompleted version bytes candidates files failures)
      (hcandidates : candidates = s.candidates.length) (hfailures : failures = s.failures.length) :
      Turn s e { s with scanSummary := some e }
  | leaseIssued {lease trust snapshotId candidateEvent admission grant}
      (hp : e.payload = .verificationLeaseIssued lease trust snapshotId)
      (hlease : LeaseAdmitted s e lease candidateEvent admission grant)
      (hnever : lease.candidateId ∉ s.latestVerificationLeaseByCandidate) :
      Turn s e (s.addLease e lease)
  | leaseExpired {leaseId lease} (hp : e.payload = .verificationLeaseExpired leaseId)
      (hlease : s.verificationLeasesById.lookup leaseId = some lease)
      (hlatest : s.latestVerificationLeaseByCandidate.lookup lease.candidateId =
        some lease.leaseId)
      (hactive : lease.leaseId ∈ s.activeVerificationLeaseIds)
      (htime : lease.expiresAt ≤ e.decisionTime) :
      Turn s e { s with
        activeVerificationLeaseIds := s.activeVerificationLeaseIds.erase lease.leaseId
        expiredVerificationLeaseIds := insert lease.leaseId s.expiredVerificationLeaseIds
        verificationLeaseExpiryEvents := s.verificationLeaseExpiryEvents ++ [e] }
  | leaseCancelled {reason leaseId lease}
      (hp : e.payload = .verificationLeaseCancelled reason leaseId)
      (hlease : s.verificationLeasesById.lookup leaseId = some lease)
      (hlatest : s.latestVerificationLeaseByCandidate.lookup lease.candidateId =
        some lease.leaseId)
      (hactive : lease.leaseId ∈ s.activeVerificationLeaseIds)
      (hwindow : lease.issuedAt ≤ e.decisionTime ∧ e.decisionTime < lease.expiresAt) :
      Turn s e { s with
        activeVerificationLeaseIds := s.activeVerificationLeaseIds.erase lease.leaseId
        cancelledVerificationLeaseIds := insert lease.leaseId s.cancelledVerificationLeaseIds
        verificationLeaseCancellationEvents := s.verificationLeaseCancellationEvents ++ [e] }
  | leaseReassigned {lease predecessorId reason trust snapshotId predecessor candidateEvent
        admission grant t}
      (hp : e.payload =
        .verificationLeaseReassigned lease predecessorId reason trust snapshotId)
      (hpredecessor : s.verificationLeasesById.lookup predecessorId = some predecessor)
      (hlatest : s.latestVerificationLeaseByCandidate.lookup predecessor.candidateId =
        some predecessor.leaseId)
      (hlast : predecessor.leaseId ∉ s.verificationLeaseSuccessors)
      (hsame : lease.bindings = predecessor.bindings)
      (hlease : LeaseAdmitted s e lease candidateEvent admission grant)
      (hverifier : lease.verifierId ≠ predecessor.verifierId)
      (hsuper : Supersession s e predecessor t) :
      Turn s e { t.addLease e lease with
        verificationLeaseSuccessors :=
          t.verificationLeaseSuccessors.insert predecessor.leaseId lease.leaseId
        verificationLeaseReassignmentEvents := t.verificationLeaseReassignmentEvents ++ [e] }
  | artifactsResolved {r lease} (hp : e.payload = .verificationArtifactsResolved r)
      (hlease : s.verificationLeasesById.lookup r.verificationLeaseId = some lease)
      (hactive : lease.leaseId ∈ s.activeVerificationLeaseIds)
      (hlatest : s.latestVerificationLeaseByCandidate.lookup lease.candidateId =
        some lease.leaseId)
      (hfresh : r.verificationLeaseId ∉ s.resolvedVerificationLeaseIds)
      (hcandidate : r.candidateId = lease.candidateId) (hresolved : r.resolvedAt = e.decisionTime)
      (hwindow : lease.issuedAt ≤ r.resolvedAt ∧ r.resolvedAt < lease.expiresAt) :
      Turn s e { s with
        resolvedVerificationLeaseIds :=
          insert r.verificationLeaseId s.resolvedVerificationLeaseIds
        verificationResolutionsByLeaseId :=
          s.verificationResolutionsByLeaseId.insert r.verificationLeaseId r
        verificationArtifactResolutionEvents := s.verificationArtifactResolutionEvents ++ [e] }
  | receiptAdmitted {profile trust snapshotId signed outputs lease resolution}
      (hp : e.payload = .verifierReceiptAdmitted profile trust snapshotId signed outputs)
      (hlease : s.verificationLeasesById.lookup signed.receipt.leaseId = some lease)
      (hfresh : signed.receipt.leaseId ∉ s.consumedVerificationLeaseIds)
      (hactive : lease.leaseId ∈ s.activeVerificationLeaseIds)
      (hlatest : s.latestVerificationLeaseByCandidate.lookup lease.candidateId =
        some lease.leaseId)
      (hresolution : s.verificationResolutionsByLeaseId.lookup signed.receipt.leaseId =
        some resolution)
      (hnames : signed.receipt.leaseId = lease.leaseId)
      (hcandidate : signed.receipt.candidateId = lease.candidateId)
      (hwindow : lease.issuedAt ≤ e.decisionTime ∧ e.decisionTime < lease.expiresAt) :
      Turn s e { s with
        activeVerificationLeaseIds := s.activeVerificationLeaseIds.erase signed.receipt.leaseId
        consumedVerificationLeaseIds :=
          insert signed.receipt.leaseId s.consumedVerificationLeaseIds
        admittedVerifierReceiptIds :=
          insert signed.receipt.receiptId s.admittedVerifierReceiptIds
        verificationReceiptAdmissionEvents := s.verificationReceiptAdmissionEvents ++ [e] }
  | missionClosed {candidates failures status summary}
      (hp : e.payload = .missionClosed candidates failures status)
      (hstatus : checkClosedStatus s status = .ok ())
      (hcandidates : candidates = s.candidates.length) (hfailures : failures = s.failures.length)
      (hsummary : s.scanSummary = some summary)
      (hcounts : summary.summaryCounts = some (candidates, failures)) :
      Turn s e { s with terminal := some e }

/-- The header checks of an accepted event. -/
structure Header (P : Primitives) (s : Reduction) (e : EventV1) : Prop where
  hverify : e.verify P = .ok ()
  hseq : e.seq = s.expectedSeq
  hprev : e.prevDigest = s.expectedPrev
  hmission : e.missionId = s.missionId
  hauthority : e.authorityId = s.authorityId
  htarget : e.targetId = s.targetId
  htime : ∀ t ∈ s.previousDecisionTime, t ≤ e.decisionTime

/-! ## Every successful step is a turn -/

/-- What the header checks of an accepted event establish. -/
theorem checkHeader_eq_ok {s : Reduction} {e : EventV1} (h : checkHeader P s e = .ok ()) :
    Header P s e := by
  simp only [checkHeader, unit_bind_eq_ok, mapError_eq_ok, refuseIf_eq_ok, not_not, not_exists,
    not_and, not_lt] at h
  obtain ⟨hverify, hseq, hprev, hmission, hauthority, htarget, htime⟩ := h
  exact ⟨hverify, hseq, hprev, hmission, hauthority, htarget, htime⟩

/-- An active predecessor is superseded inside its window, and any other one was recovered. -/
theorem supersedePredecessor_eq_ok {s t : Reduction} {e : EventV1}
    {predecessor : VerificationLeaseV1} {reason : ReassignmentReason}
    (h : supersedePredecessor s e predecessor reason = .ok t) :
    Supersession s e predecessor t := by
  unfold supersedePredecessor at h
  split_ifs at h with hactive hexpired hcancelled
  · simp only [unit_bind_eq_ok, refuseIf_eq_ok, ge_iff_le, not_le] at h
    obtain ⟨htime, -, ht⟩ := h
    obtain rfl : _ = t := by simpa [pure, Except.pure] using ht
    exact .active hactive htime
  · simp only [unit_bind_eq_ok, refuseIf_eq_ok] at h
    obtain ⟨-, ht⟩ := h
    obtain rfl : s = t := by simpa [pure, Except.pure] using ht
    exact .recovered hactive (Or.inl hexpired)
  · simp only [unit_bind_eq_ok, refuseIf_eq_ok] at h
    obtain ⟨-, ht⟩ := h
    obtain rfl : s = t := by simpa [pure, Except.pure] using ht
    exact .recovered hactive (Or.inr hcancelled)

/-- An analysis lease within the admitted grant is retained. -/
theorem applyAnalysisLeaseIssued_turn {s t : Reduction} {e : EventV1} {lease : AnalysisLeaseV1}
    (hp : e.payload = .analysisLeaseIssued lease)
    (h : applyAnalysisLeaseIssued s e lease = .ok t) : Turn s e t := by
  simp only [applyAnalysisLeaseIssued, unit_bind_eq_ok, refuseIf_eq_ok, orRefuse_bind_eq_ok,
    not_or, not_not, not_lt, gt_iff_lt] at h
  obtain ⟨grant, hgrant, admission, -, -, ⟨hexpires, -, hbudget, -⟩, -, snapshot, -, -, hwindow,
    ht⟩ := h
  obtain rfl : _ = t := by simpa [pure, Except.pure] using ht
  exact .analysisLeaseIssued hp hgrant hexpires hbudget hwindow

/-- The lease, window and budget of an analysis output. -/
theorem checkAnalysisOutput_eq_ok {s : Reduction} {e : EventV1} {what source path : String}
    {leaseId digest : Digest}
    (h : checkAnalysisOutput s e what source leaseId path digest = .ok ()) :
    ∃ lease, s.analysisLease = some lease ∧
      (lease.issuedAt ≤ e.decisionTime ∧ e.decisionTime < lease.expiresAt) ∧
      s.candidates.length + s.failures.length + 1 ≤ lease.maxCandidates := by
  simp only [checkAnalysisOutput, unit_bind_eq_ok, refuseIf_eq_ok, orRefuse_bind_eq_ok, not_not,
    not_lt, gt_iff_lt] at h
  obtain ⟨lease, hlease, -, -, hwindow, hbudget, -⟩ := h
  exact ⟨lease, hlease, hwindow, hbudget⟩

/-- A fresh candidate within the budget of the analysis lease is recorded. -/
theorem applyCandidateRecorded_turn {s t : Reduction} {e : EventV1} {c : StaticCandidateV1}
    (hp : e.payload = .candidateRecorded c) (h : applyCandidateRecorded s e c = .ok t) :
    Turn s e t := by
  simp only [applyCandidateRecorded, unit_bind_eq_ok, refuseIf_eq_ok] at h
  obtain ⟨hfresh, hcheck, ht⟩ := h
  obtain ⟨lease, hlease, hwindow, hbudget⟩ := checkAnalysisOutput_eq_ok hcheck
  obtain rfl : _ = t := by simpa [pure, Except.pure] using ht
  exact .candidateRecorded hp hfresh hlease hwindow hbudget

/-- A parse failure counts against the same budget. -/
theorem applyParseFailed_turn {s t : Reduction} {e : EventV1} {leaseId digest : Digest}
    {failure : ParseFailure} (hp : e.payload = .parseFailed leaseId failure digest)
    (h : applyParseFailed s e leaseId failure digest = .ok t) : Turn s e t := by
  simp only [applyParseFailed, unit_bind_eq_ok] at h
  obtain ⟨hcheck, ht⟩ := h
  obtain ⟨lease, hlease, hwindow, hbudget⟩ := checkAnalysisOutput_eq_ok hcheck
  obtain rfl : _ = t := by simpa [pure, Except.pure] using ht
  exact .parseFailed hp hlease hwindow hbudget

/-- A completed scan names the counts of what was recorded. -/
theorem applyScanCompleted_turn {s t : Reduction} {e : EventV1} {version : String}
    {bytes candidates files failures : ℕ}
    (hp : e.payload = .scanCompleted version bytes candidates files failures)
    (h : applyScanCompleted s e version bytes candidates files failures = .ok t) :
    Turn s e t := by
  simp only [applyScanCompleted, unit_bind_eq_ok, refuseIf_eq_ok, orRefuse_bind_eq_ok,
    not_not] at h
  obtain ⟨lease, -, snapshot, -, -, hcandidates, hfailures, -, -, -, -, ht⟩ := h
  obtain rfl : _ = t := by simpa [pure, Except.pure] using ht
  exact .scanCompleted hp hcandidates hfailures

/-- The first lease of a candidate is issued under the authority of the mission. -/
theorem applyVerificationLeaseIssued_turn {s t : Reduction} {e : EventV1}
    {lease : VerificationLeaseV1} {trust : VerifierTrustStore} {snapshotId : Digest}
    (hp : e.payload = .verificationLeaseIssued lease trust snapshotId)
    (h : applyVerificationLeaseIssued s e lease trust snapshotId = .ok t) : Turn s e t := by
  simp only [applyVerificationLeaseIssued, unit_bind_eq_ok, refuseIf_eq_ok, orRefuse_bind_eq_ok,
    not_not, not_lt, gt_iff_lt] at h
  obtain ⟨grant, hgrant, admission, hadmission, hauthority, candidateEvent, hcandidate, hbindings,
    hissued, hwindow, hproducer, -, hfresh, hnever, hcount, ht⟩ := h
  obtain rfl : _ = t := by simpa [pure, Except.pure] using ht
  exact .leaseIssued hp ⟨hgrant, hadmission, hauthority, hcandidate, hbindings, hissued, hwindow,
    hproducer, hfresh, hcount⟩ hnever

/-- Only an active latest lease expires, when its window is over. -/
theorem applyVerificationLeaseExpired_turn {s t : Reduction} {e : EventV1} {leaseId : Digest}
    (hp : e.payload = .verificationLeaseExpired leaseId)
    (h : applyVerificationLeaseExpired s e leaseId = .ok t) : Turn s e t := by
  simp only [applyVerificationLeaseExpired, unit_bind_eq_ok, refuseIf_eq_ok, orRefuse_bind_eq_ok,
    not_not, not_lt] at h
  obtain ⟨lease, hlease, hlatest, hactive, htime, ht⟩ := h
  obtain rfl : _ = t := by simpa [pure, Except.pure] using ht
  exact .leaseExpired hp hlease hlatest hactive htime

/-- Only an active latest lease is cancelled, inside its window. -/
theorem applyVerificationLeaseCancelled_turn {s t : Reduction} {e : EventV1} {reason : String}
    {leaseId : Digest} (hp : e.payload = .verificationLeaseCancelled reason leaseId)
    (h : applyVerificationLeaseCancelled s e reason leaseId = .ok t) : Turn s e t := by
  simp only [applyVerificationLeaseCancelled, unit_bind_eq_ok, refuseIf_eq_ok,
    orRefuse_bind_eq_ok, not_not] at h
  obtain ⟨lease, hlease, -, hlatest, hactive, hwindow, ht⟩ := h
  obtain rfl : _ = t := by simpa [pure, Except.pure] using ht
  exact .leaseCancelled hp hlease hlatest hactive hwindow

/-- A reassignment retires its predecessor and issues the next lease of the same candidate. -/
theorem applyVerificationLeaseReassigned_turn {s t : Reduction} {e : EventV1}
    {lease : VerificationLeaseV1} {predecessorId : Digest} {reason : ReassignmentReason}
    {trust : VerifierTrustStore} {snapshotId : Digest}
    (hp : e.payload = .verificationLeaseReassigned lease predecessorId reason trust snapshotId)
    (h : applyVerificationLeaseReassigned P s e lease predecessorId reason trust snapshotId =
      .ok t) : Turn s e t := by
  simp only [applyVerificationLeaseReassigned, unit_bind_eq_ok, refuseIf_eq_ok,
    orRefuse_bind_eq_ok, not_not, not_lt, gt_iff_lt] at h
  obtain ⟨predecessor, hpredecessor, hlatest, hlast, grant, hgrant, admission, hadmission,
    hauthority, candidateEvent, hcandidate, hsame, hbindings, hissued, hwindow, hproducer,
    hverifier, -, -, hfresh, hcount, h⟩ := h
  obtain ⟨u, hsuper, hu⟩ := bind_eq_ok.mp h
  obtain rfl : _ = t := by simpa [pure, Except.pure] using hu
  have hid : lease.candidateId = predecessor.candidateId := congrArg LeaseBindings.candidateId hsame
  exact .leaseReassigned hp hpredecessor hlatest hlast hsame ⟨hgrant, hadmission, hauthority,
    hid ▸ hcandidate, hbindings, hissued, hwindow, hproducer, hfresh, hcount⟩ hverifier
    (supersedePredecessor_eq_ok hsuper)

/-- The inputs of an active latest lease are resolved once. -/
theorem applyVerificationArtifactsResolved_turn {s t : Reduction} {e : EventV1}
    {r : VerificationArtifactResolutionV1} (hp : e.payload = .verificationArtifactsResolved r)
    (h : applyVerificationArtifactsResolved s e r = .ok t) : Turn s e t := by
  simp only [applyVerificationArtifactsResolved, unit_bind_eq_ok, refuseIf_eq_ok,
    orRefuse_bind_eq_ok, not_not, not_or] at h
  obtain ⟨lease, hlease, ⟨hactive, hlatest⟩, hfresh, ⟨-, -, -, hcandidate⟩, hresolved, hwindow,
    snapshot, -, -, -, grant, -, -, ht⟩ := h
  obtain rfl : _ = t := by simpa [pure, Except.pure] using ht
  exact .artifactsResolved hp hlease hactive hlatest hfresh hcandidate hresolved hwindow

/-- A receipt consumes the active latest lease whose inputs were resolved. -/
theorem applyVerifierReceiptAdmitted_turn {s t : Reduction} {e : EventV1} {profile : String}
    {trust : VerifierTrustStore} {snapshotId : Digest} {signed : SignedVerifierReceiptV1}
    {outputs : VerificationOutputArtifactsV1}
    (hp : e.payload = .verifierReceiptAdmitted profile trust snapshotId signed outputs)
    (h : applyVerifierReceiptAdmitted P s e profile trust snapshotId signed outputs = .ok t) :
    Turn s e t := by
  simp only [applyVerifierReceiptAdmitted, unit_bind_eq_ok, refuseIf_eq_ok,
    orRefuse_bind_eq_ok, not_not, not_or] at h
  obtain ⟨-, lease, hlease, hfresh, ⟨hactive, hlatest⟩, resolution, hresolution, -, h⟩ := h
  obtain ⟨a, ha, h⟩ := bind_eq_ok.mp h
  obtain ⟨o, -, h⟩ := bind_eq_ok.mp h
  simp only [unit_bind_eq_ok, orRefuse_bind_eq_ok] at h
  obtain ⟨-, -, grant, -, -, ht⟩ := h
  obtain ⟨hissued, hexpires, hnames, hcandidate, -⟩ :=
    authenticateVerifierReceipt_inv P (mapError_eq_ok.mp ha)
  obtain rfl : _ = t := by simpa [pure, Except.pure] using ht
  exact .receiptAdmitted hp hlease hfresh hactive hlatest hresolution hnames hcandidate
    ⟨hissued, hexpires⟩

/-- A closure names the counts of the scan and a status that the dispositions allow. -/
theorem applyMissionClosed_turn {s t : Reduction} {e : EventV1} {candidates failures : ℕ}
    {status : ClosedStatus} (hp : e.payload = .missionClosed candidates failures status)
    (h : applyMissionClosed s e candidates failures status = .ok t) : Turn s e t := by
  simp only [applyMissionClosed, unit_bind_eq_ok, refuseIf_eq_ok, orRefuse_bind_eq_ok,
    not_not] at h
  obtain ⟨hstatus, hcandidates, hfailures, summary, hsummary, hcounts, ht⟩ := h
  obtain rfl : _ = t := by simpa [pure, Except.pure] using ht
  exact .missionClosed hp hstatus hcandidates hfailures hsummary hcounts

/-- Every accepted payload makes the turn of its kind. -/
theorem applyPayload_turn {s t : Reduction} {e : EventV1} (h : applyPayload P s e = .ok t) :
    Turn s e t := by
  unfold applyPayload at h
  split at h
  case h_1 hp =>
    simp only [applyAuthorityAdmitted, unit_bind_eq_ok] at h
    obtain rfl : _ = t := by simpa [pure, Except.pure] using h.2
    exact .authorityAdmitted hp
  case h_2 hp =>
    obtain rfl := Except.ok.inj h
    exact .missionOpened hp
  case h_3 hp => exact applyAnalysisLeaseIssued_turn hp h
  case h_4 hp => exact applyCandidateRecorded_turn hp h
  case h_5 hp => exact applyParseFailed_turn hp h
  case h_6 hp =>
    obtain rfl := Except.ok.inj h
    exact .admissionRefused hp
  case h_7 hp =>
    obtain rfl := Except.ok.inj h
    exact .stopped (Or.inl hp)
  case h_8 hp =>
    obtain rfl := Except.ok.inj h
    exact .stopped (Or.inr (Or.inl hp))
  case h_9 hp =>
    obtain rfl := Except.ok.inj h
    exact .stopped (Or.inr (Or.inr (Or.inl hp)))
  case h_10 hp =>
    obtain rfl := Except.ok.inj h
    exact .stopped (Or.inr (Or.inr (Or.inr hp)))
  case h_11 hp => exact applyScanCompleted_turn hp h
  case h_12 hp => exact applyVerificationLeaseIssued_turn hp h
  case h_13 hp => exact applyVerificationLeaseExpired_turn hp h
  case h_14 hp => exact applyVerificationLeaseCancelled_turn hp h
  case h_15 hp => exact applyVerificationLeaseReassigned_turn hp h
  case h_16 hp => exact applyVerificationArtifactsResolved_turn hp h
  case h_17 hp => exact applyVerifierReceiptAdmitted_turn hp h
  case h_18 hp => exact applyMissionClosed_turn hp h

/-- A successful step passed the header checks, moved the phase along the transition table
and made the turn of its kind. -/
theorem step_turn {s s' : Reduction} {e : EventV1} (h : step P s e = .ok s') :
    Header P s e ∧ ∃ phase t, transition s.phase e.kind = .ok phase ∧ Turn s e t ∧
      s' = t.advance phase e := by
  simp only [step, unit_bind_eq_ok] at h
  obtain ⟨hheader, h⟩ := h
  obtain ⟨phase, hphase, h⟩ := bind_eq_ok.mp h
  obtain ⟨t, ht, h⟩ := bind_eq_ok.mp h
  obtain rfl : _ = s' := by simpa [pure, Except.pure] using h
  exact ⟨checkHeader_eq_ok hheader, phase, t, hphase, applyPayload_turn ht, rfl⟩

end Etzio
