import Etzio.LeaseChains

/-!
# Closing and authority laws

Two laws of accepted streams. `mission_closed_coverage` : the status and the counts of a
closed mission agree with the raw history of candidates and receipts. `within_authority` :
every retained decision lies inside the authority, the analysis lease or the verification
lease that permits it, and the outputs and the leases stay within their budgets.
-/

open CheckedRun LeaseBook

namespace Etzio

variable {P : Primitives}

/-! ## Receipt coverage -/

/-- The candidates a stream records. -/
def recordedCandidates (h : List EventV1) : List StaticCandidateV1 :=
  h.filterMap EventV1.candidate?

/-- Every recorded candidate has an admitted receipt. -/
def ReceiptsCover (h : List EventV1) : Prop :=
  ∀ c ∈ recordedCandidates h, ∃ r ∈ admittedReceipts h, r.candidateId = c.candidateId

/-- The admission requires `modeled_fixture_verification`. -/
def requiresVerification (h : List EventV1) : Prop :=
  ∃ a g, admittedAuthority h = some (a, g) ∧ Action.modeledFixtureVerification ∈ a.requiredActions

theorem receipt_of_leaseMove {e : EventV1} {i : Digest} (h : e.leaseMove = some (.consume i)) :
    ∃ r, e.receipt? = some r ∧ r.leaseId = i := by
  unfold EventV1.leaseMove at h
  split at h <;> simp_all [EventV1.receipt?]

/-- The lease of an admitted receipt belongs to the receipt's candidate. -/
theorem leaseOf_receipt {first e : EventV1} {events : List EventV1} {s : Reduction}
    {r : VerifierReceiptV1} (run : reduceLoop P first events = .ok s) (he : e ∈ events)
    (hr : e.receipt? = some r) : leaseOf events r.candidateId r.leaseId := by
  obtain ⟨pre, post, rfl⟩ := List.append_of_mem he
  obtain ⟨m, m', hm, hstep, -⟩ := foldlM_split run
  obtain ⟨lease, hlease, -, hcand, -⟩ := step_receipt hstep hr
  exact (hcand ▸ leaseOf_of_lookup hm hlease).append _

/-- A candidate is receipt-covered exactly when the stream admits a receipt for it. -/
theorem receiptCovered_iff {first : EventV1} {events : List EventV1} {s : Reduction}
    {b : Book Digest Digest} (run : reduceLoop P first events = .ok s)
    (hb : Steps (leaseMoves events) .empty b) (c : Digest) :
    candidateClass b c = some .receiptCovered ↔
      ∃ r ∈ admittedReceipts events, r.candidateId = c := by
  constructor
  · intro hclass
    unfold candidateClass at hclass
    split at hclass
    · simp at hclass
    · rename_i i hlatest
      have hconsumed : b.status i = some .consumed := by
        obtain ⟨st, hst, -⟩ := status_of_latest hb hlatest
        cases st <;> simp_all [classOf]
      have hmem : .consume i ∈ leaseMoves events := by
        rw [← List.count_pos_iff, (settled hb).consumed, if_pos hconsumed]
        exact Nat.one_pos
      obtain ⟨e, he, hmove⟩ := List.mem_filterMap.mp hmem
      obtain ⟨r, hr, rfl⟩ := receipt_of_leaseMove hmove
      refine ⟨r, List.mem_filterMap.mpr ⟨e, he, hr⟩, ?_⟩
      have hjob := (job_eq_some_iff hb).mpr (leaseOf_receipt run he hr)
      rw [(linked hb).latest] at hlatest
      have hjob' := ((known hb).job _ c).mpr (mem_chain.mp (List.mem_of_getLast? hlatest))
      exact Option.some.inj (hjob.symm.trans hjob')
  · rintro ⟨r, hmem, rfl⟩
    obtain ⟨e, he, hr⟩ := List.mem_filterMap.mp hmem
    have hjob := (job_eq_some_iff hb).mpr (leaseOf_receipt run he hr)
    obtain ⟨pre, post, rfl⟩ := List.append_of_mem he
    have hmoves : leaseMoves (pre ++ e :: post) =
        leaseMoves pre ++ .consume r.leaseId :: leaseMoves post := by
      simp [leaseMoves, leaseMove_of_receipt hr]
    rw [hmoves] at hb
    obtain ⟨k, hk, -, -, -, hlatest, hconsumed⟩ := hb.consume_inv
    obtain rfl : r.candidateId = k := Option.some.inj (hjob.symm.trans hk)
    simp [candidateClass, hlatest, hconsumed, classOf]

/-! ## Verification events need verification authority -/

/-- A created lease was admitted under verification authority. -/
theorem requiresVerification_of_created {first : EventV1} {events : List EventV1} {s : Reduction}
    (run : reduceLoop P first events = .ok s) {lease : VerificationLeaseV1}
    (hl : lease ∈ createdLeases events) : requiresVerification events := by
  obtain ⟨e, he, hcreated⟩ := List.mem_filterMap.mp hl
  obtain ⟨pre, post, rfl⟩ := List.append_of_mem he
  obtain ⟨m, m', hm, hstep, -⟩ := foldlM_split run
  obtain ⟨-, phase, t, -, hturn, -⟩ := step_turn hstep
  have hauth := reduceLoop_authorized hm
  have hadmitted : ∀ {l candidateEvent admission grant},
      LeaseAdmitted m e l candidateEvent admission grant →
      requiresVerification (pre ++ e :: post) := by
    intro l candidateEvent admission grant hlease
    have hadm := hauth.admission
    rw [hlease.hadmission] at hadm
    obtain ⟨⟨a, g⟩, hag, rfl⟩ := Option.map_eq_some_iff.mp hadm.symm
    have hnot := hlease.hauthority
    simp only [lacksVerificationAuthority, not_or, not_not] at hnot
    exact ⟨a, g, by simp [admittedAuthority, List.findSome?_append] at hag ⊢; simp [hag], hnot.1⟩
  cases hturn with
  | leaseIssued hp hlease hnever => exact hadmitted hlease
  | leaseReassigned hp _ _ _ _ hlease _ _ => exact hadmitted hlease
  | stopped hp =>
    rcases hp with hp | hp | hp | hp <;> simp [EventV1.createdLease?, hp] at hcreated
  | _ => simp_all [EventV1.createdLease?]

/-- A verification event of an accepted stream needs verification authority. -/
theorem requiresVerification_of_kind {first x : EventV1} {events : List EventV1} {s : Reduction}
    (run : reduceLoop P first events = .ok s) (hx : x ∈ events)
    (hk : x.kind ∈ verificationKinds) : requiresVerification events := by
  have hcreated : ∃ lease, lease ∈ createdLeases events := by
    obtain ⟨pre, post, rfl⟩ := List.append_of_mem hx
    obtain ⟨m, m', hm, hstep, -⟩ := foldlM_split run
    obtain ⟨-, phase, t, -, hturn, -⟩ := step_turn hstep
    have hlookup : ∀ {i lease}, m.verificationLeasesById.lookup i = some lease →
        ∃ lease, lease ∈ createdLeases (pre ++ x :: post) := by
      intro i lease hl
      obtain ⟨l, hmem, -⟩ := (leaseOf_of_lookup hm hl).append (x :: post)
      exact ⟨l, hmem⟩
    cases hturn with
    | @leaseIssued lease _ _ _ _ _ hp hlease hnever =>
      exact ⟨lease, List.mem_filterMap.mpr ⟨x, by simp, by simp only [EventV1.createdLease?, hp]⟩⟩
    | leaseReassigned hp hpred => exact hlookup hpred
    | leaseExpired hp hlease => exact hlookup hlease
    | leaseCancelled hp hlease => exact hlookup hlease
    | artifactsResolved hp hlease => exact hlookup hlease
    | receiptAdmitted hp hlease => exact hlookup hlease
    | stopped hp =>
      rcases hp with hp | hp | hp | hp <;>
        simp [EventBody.kind, hp, Payload.kind, verificationKinds] at hk
    | _ => simp_all [EventBody.kind, Payload.kind, verificationKinds]
  obtain ⟨lease, hl⟩ := hcreated
  exact requiresVerification_of_created run hl

/-! ## Closing -/

/-- The scan summary counts the retained outputs, and analysis is over once it is retained. -/
structure Summarized (h : List EventV1) (s : Reduction) : Prop where
  counts : ∀ x ∈ h, ∀ n, x.summaryCounts = some n → n = (s.candidates.length, s.failures.length)
  finished : ∀ x ∈ h, ∀ n, x.summaryCounts = some n → ¬(s.phase.early ∨ s.phase = .analyzing)
  retained : ∀ x ∈ s.scanSummary, x ∈ h

theorem reduceLoop_summarized {first : EventV1} {events : List EventV1} {s : Reduction}
    (run : reduceLoop P first events = .ok s) : Summarized events s := by
  refine foldlM_invariant Summarized ⟨by simp, by simp, by simp [Reduction.initial]⟩ ?_ run
  intro h s e s' _ ih hstep
  obtain ⟨-, phase, t, hphase, hturn, rfl⟩ := step_turn hstep
  replace hphase := transition_eq_ok hphase
  have hover : ∀ x ∈ h, ∀ n, x.summaryCounts = some n → ¬(phase.early ∨ phase = .analyzing) := by
    intro x hx n hn hearly
    exact ih.finished x hx n hn (nextPhase_analyzing _ _ _ hphase hearly).1
  -- An event without a summary that keeps the summary and, once there is one, the outputs.
  have hkeep : e.summaryCounts = none → t.scanSummary = s.scanSummary →
      ((e.kind = .candidateRecorded ∨ e.kind = .parseFailed) ∨
        t.candidates = s.candidates ∧ t.failures = s.failures) →
      Summarized (h ++ [e]) (t.advance phase e) := by
    intro hnone hsummary houtputs
    refine ⟨fun x hx n hn => ?_, fun x hx n hn => ?_, fun x hx => ?_⟩
    · rcases List.mem_append.mp hx with hx | hx
      · rcases houtputs with hk | ⟨hc, hf⟩
        · exact absurd (Or.inr (nextPhase_analysisOutput _ _ _ hphase hk)) (ih.finished x hx n hn)
        · simpa [Reduction.advance, hc, hf] using ih.counts x hx n hn
      · rw [List.mem_singleton.mp hx, hnone] at hn
        simp at hn
    · rcases List.mem_append.mp hx with hx | hx
      · exact hover x hx n hn
      · rw [List.mem_singleton.mp hx, hnone] at hn
        simp at hn
    · exact List.mem_append_left _ (ih.retained x (hsummary ▸ hx))
  cases hturn with
  | @scanCompleted version bytes candidates files failures hp hcandidates hfailures =>
    have hk : e.kind = .scanCompleted := by simp only [EventBody.kind, hp, Payload.kind]
    have hcounts : e.summaryCounts = some (candidates, failures) := by
      simp only [EventV1.summaryCounts, hp]
    refine ⟨fun x hx n hn => ?_, fun x hx n hn => ?_, fun x hx => ?_⟩
    · rcases List.mem_append.mp hx with hx | hx
      · exact ih.counts x hx n hn
      · rw [List.mem_singleton.mp hx, hcounts, hcandidates, hfailures] at hn
        exact (Option.some.inj hn).symm
    · intro hearly
      exact (nextPhase_analyzing _ _ _ hphase hearly).2 hk
    · obtain rfl : e = x := Option.some.inj hx
      simp
  | candidateRecorded hp =>
    exact hkeep (by simp only [EventV1.summaryCounts, hp]) rfl
      (Or.inl (Or.inl (by simp only [EventBody.kind, hp, Payload.kind])))
  | parseFailed hp =>
    exact hkeep (by simp only [EventV1.summaryCounts, hp]) rfl
      (Or.inl (Or.inr (by simp only [EventBody.kind, hp, Payload.kind])))
  | leaseReassigned hp _ _ _ _ _ _ hsuper =>
    have hnone : e.summaryCounts = none := by simp only [EventV1.summaryCounts, hp]
    cases hsuper with
    | active hactive htime => exact hkeep hnone rfl (Or.inr ⟨rfl, rfl⟩)
    | recovered hactive hdisposed => exact hkeep hnone rfl (Or.inr ⟨rfl, rfl⟩)
  | stopped hp =>
    have hnone : e.summaryCounts = none := by
      rcases hp with hp | hp | hp | hp <;> simp only [EventV1.summaryCounts, hp]
    exact hkeep hnone rfl (Or.inr ⟨rfl, rfl⟩)
  | _ => exact hkeep (by simp only [EventV1.summaryCounts, *]) rfl (Or.inr ⟨rfl, rfl⟩)

/-- The verification lists of the loop are empty exactly when the stream has no verification
event. -/
theorem noVerificationEvents_iff {h : List EventV1} {s : Reduction} (hrec : Records h s) :
    s.noVerificationEvents ↔ ofKinds verificationKinds h = [] := by
  simp only [Reduction.noVerificationEvents, hrec.leases, hrec.expiries, hrec.cancellations,
    hrec.reassignments, hrec.resolutions, hrec.receipts, ofKinds, List.filter_eq_nil_iff,
    decide_eq_true_eq, verificationKinds, List.mem_cons, List.not_mem_nil, or_false, not_or]
  constructor
  · rintro ⟨h1, h2, h3, -, h5, h6⟩ x hx
    exact ⟨(h1 x hx).1, h2 x hx, h3 x hx, (h1 x hx).2, h5 x hx, h6 x hx⟩
  · intro hall
    exact ⟨fun x hx => ⟨(hall x hx).1, (hall x hx).2.2.2.1⟩, fun x hx => (hall x hx).2.1,
      fun x hx => (hall x hx).2.2.1, fun x hx => (hall x hx).2.2.2.1,
      fun x hx => (hall x hx).2.2.2.2.1, fun x hx => (hall x hx).2.2.2.2.2⟩

theorem candidateIds_eq_empty_iff {h : List EventV1} {s : Reduction} (hrec : Records h s) :
    s.candidateIds = ∅ ↔ recordedCandidates h = [] := by
  rw [Finset.eq_empty_iff_forall_notMem]
  simp only [hrec.candidateIds, recordedCandidates, List.filterMap_eq_nil_iff]
  constructor
  · intro hall x hx
    cases hc : x.candidate? with
    | none => rfl
    | some c => exact absurd ⟨x, hx, c, hc, rfl⟩ (hall c.candidateId)
  · rintro hall c ⟨x, hx, k, hk, -⟩
    simp [hall x hx] at hk

/-- The status check of a closing event, in terms of the stream before it. -/
theorem checkClosedStatus_eq_ok {first : EventV1} {h : List EventV1} {s : Reduction}
    {status : ClosedStatus} (run : reduceLoop P first h = .ok s)
    (hstatus : checkClosedStatus s status = .ok ()) :
    (requiresVerification h → s.activeVerificationLeaseIds = ∅ ∧
      (ReceiptsCover h ∧ status = .receiptCoverageComplete ∨
        ¬ReceiptsCover h ∧ status = .receiptCoverageIncomplete ∨
        status = .completed ∧ recordedCandidates h = [] ∧ ofKinds verificationKinds h = [])) ∧
    (¬requiresVerification h → status = .completed) := by
  have hrec := reduceLoop_records run
  have hintent : s.verificationIntent ↔ requiresVerification h := by
    simp only [Reduction.verificationIntent, requiresVerification,
      (reduceLoop_authorized run).admission]
    cases admittedAuthority h with
    | none => simp
    | some ag =>
      obtain ⟨a, g⟩ := ag
      simp
  unfold checkClosedStatus at hstatus
  split_ifs at hstatus with hv
  · refine ⟨fun _ => ?_, fun hn => absurd (hintent.mp hv) hn⟩
    obtain ⟨b, p, hb, hr, hp, hpart⟩ := reduceLoop_partitions run
    obtain ⟨p', hp', hstatus⟩ := bind_eq_ok.mp hstatus
    obtain rfl : p = p' := Except.ok.inj (hp.symm.trans hp')
    simp only [unit_bind_eq_ok, refuseIf_eq_ok, not_or, not_not] at hstatus
    obtain ⟨⟨hactive, -⟩, hlaw⟩ := hstatus
    refine ⟨hactive, ?_⟩
    have hcover : p.receiptCovered = s.candidateIds ↔ ReceiptsCover h := by
      have hmem : ∀ c, c ∈ p.receiptCovered ↔ c ∈ s.candidateIds ∧
          ∃ r ∈ admittedReceipts h, r.candidateId = c := fun c => by
        rw [← receiptCovered_iff run hb]
        exact hpart .receiptCovered c
      rw [Finset.ext_iff]
      simp only [hmem, and_iff_left_iff_imp, hrec.candidateIds, ReceiptsCover, recordedCandidates,
        List.mem_filterMap]
      constructor
      · rintro hall c ⟨x, hx, hc⟩
        exact hall c.candidateId ⟨x, hx, c, hc, rfl⟩
      · rintro hall _ ⟨x, hx, k, hk, rfl⟩
        exact hall k ⟨x, hx, hk⟩
    rw [candidateIds_eq_empty_iff hrec, noVerificationEvents_iff hrec] at hlaw
    by_cases hc : ReceiptsCover h
    · by_cases hs : status = .receiptCoverageComplete
      · exact Or.inl ⟨hc, hs⟩
      · exact Or.inr (Or.inr (by_contra fun hno => hlaw ⟨by simpa [hcover, hc] using hs, hno⟩))
    · by_cases hs : status = .receiptCoverageIncomplete
      · exact Or.inr (Or.inl ⟨hc, hs⟩)
      · exact Or.inr (Or.inr (by_contra fun hno => hlaw ⟨by simpa [hcover, hc] using hs, hno⟩))
  · refine ⟨fun hn => absurd (hintent.mpr hn) hv, fun _ => ?_⟩
    simpa using hstatus

/-- The projections of a stream that a closing event extends. -/
theorem closed_projections {e : EventV1} {h : List EventV1} {candidates failures : ℕ}
    {status : ClosedStatus} (hp : e.payload = .missionClosed candidates failures status) :
    (∀ kinds, .missionClosed ∉ kinds → ofKinds kinds (h ++ [e]) = ofKinds kinds h) ∧
      recordedCandidates (h ++ [e]) = recordedCandidates h ∧
      admittedReceipts (h ++ [e]) = admittedReceipts h ∧
      admittedAuthority (h ++ [e]) = admittedAuthority h ∧ e.summaryCounts = none := by
  have hk : e.kind = .missionClosed := by simp only [EventBody.kind, hp, Payload.kind]
  refine ⟨fun kinds hnot => ?_, ?_, ?_, ?_, ?_⟩
  · simp [ofKinds_snoc, hk, hnot]
  · simp [recordedCandidates, EventV1.candidate?, hp]
  · simp [admittedReceipts, EventV1.receipt?, hp]
  · simp [admittedAuthority, EventV1.authority?, hp]
  · simp only [EventV1.summaryCounts, hp]

/-- The status and the counts of a closed mission agree with its history : with
verification required no lease is active and the status reports whether every recorded
candidate has a receipt, except that a mission without candidates and verification events
may close as completed; without it the status is completed and there is no verification
event; the counts are the numbers of recorded candidates and parse failures. -/
theorem mission_closed_coverage {pre : List EventV1} {e : EventV1} {q : MissionProjection}
    {candidates failures : ℕ} {status : ClosedStatus} (h : reduceEvents P (pre ++ [e]) = .ok q)
    (hp : e.payload = .missionClosed candidates failures status) :
    (requiresVerification (pre ++ [e]) → q.final.activeVerificationLeaseIds = ∅ ∧
      (ReceiptsCover (pre ++ [e]) ∧ status = .receiptCoverageComplete ∨
        ¬ReceiptsCover (pre ++ [e]) ∧ status = .receiptCoverageIncomplete ∨
        status = .completed ∧ recordedCandidates (pre ++ [e]) = [] ∧
          ofKinds verificationKinds (pre ++ [e]) = [])) ∧
    (¬requiresVerification (pre ++ [e]) → status = .completed ∧
      ofKinds verificationKinds (pre ++ [e]) = []) ∧
    candidates = (ofKinds [.candidateRecorded] (pre ++ [e])).length ∧
    failures = (ofKinds [.parseFailed] (pre ++ [e])).length ∧
    (∃ x ∈ pre ++ [e], x.summaryCounts = some (candidates, failures)) ∧
    ∀ x ∈ pre ++ [e], ∀ n, x.summaryCounts = some n → n = (candidates, failures) := by
  obtain ⟨first, rest, -, -, run⟩ := reduceEvents_eq_ok h
  obtain ⟨m, hm, hstep⟩ := foldlM_append_eq_ok.mp run
  obtain ⟨-, phase, t, -, hturn, hfinal⟩ := step_turn (foldlM_singleton_eq_ok.mp hstep)
  obtain ⟨hkinds, hcands, hreceipts, hauthority, hnone⟩ := closed_projections (h := pre) hp
  have hrec := reduceLoop_records hm
  have hsum := reduceLoop_summarized hm
  simp only [requiresVerification, ReceiptsCover, hcands, hreceipts, hauthority,
    hkinds verificationKinds (by decide), hkinds [.candidateRecorded] (by decide),
    hkinds [.parseFailed] (by decide)]
  cases hturn with
  | @missionClosed candidates' failures' status' summary hp' hstatus hcandidates hfailures hsummary
      hcounts =>
    obtain ⟨rfl, rfl, rfl⟩ := Payload.missionClosed.inj (hp.symm.trans hp')
    obtain ⟨hyes, hno⟩ := checkClosedStatus_eq_ok hm hstatus
    refine ⟨fun hv => ?_, fun hv => ⟨hno hv, ?_⟩, by rw [hcandidates, hrec.candidates],
      by rw [hfailures, hrec.failures], ?_, fun x hx n hn => ?_⟩
    · rw [hfinal]
      exact hyes hv
    · rw [ofKinds, List.filter_eq_nil_iff]
      intro x hx hk
      exact hv (requiresVerification_of_kind hm hx (of_decide_eq_true hk))
    · exact ⟨summary, List.mem_append_left _ (hsum.retained summary hsummary), hcounts⟩
    · rcases List.mem_append.mp hx with hx | hx
      · rw [hcandidates, hfailures]
        exact hsum.counts x hx n hn
      · rw [List.mem_singleton.mp hx, hnone] at hn
        simp at hn
  | stopped hp' => rcases hp' with h' | h' | h' | h' <;> simp [hp] at h'
  | _ => simp_all

/-- The sample mission closes with one candidate and no parse failure. -/
theorem mission_closed_coverage_sample :
    ∃ q, reduceEvents samplePrimitives sampleMission = .ok q ∧
      q.final.activeVerificationLeaseIds = ∅ ∧
      1 = (ofKinds [.candidateRecorded] sampleMission).length := by
  obtain ⟨q, hq⟩ := sampleMission_accepted
  have hsplit : sampleMission = sampleMission.take 9 ++ [sampleMission.get ⟨9, by decide⟩] := rfl
  rw [hsplit] at hq
  obtain ⟨hverified, -, hcandidates, -⟩ := mission_closed_coverage hq rfl
  refine ⟨q, hq, (hverified ?_).1, hcandidates⟩
  exact ⟨sampleAdmission, sampleGrant, rfl, by decide⟩

/-! ## Windows and budgets -/

/-- What an event was decided under, given the loop's state before it. -/
structure DecidedWithin (m : Reduction) (e : EventV1) : Prop where
  output : e.kind = .candidateRecorded ∨ e.kind = .parseFailed → ∃ lease ∈ m.analysisLease,
    lease.issuedAt ≤ e.decisionTime ∧ e.decisionTime < lease.expiresAt
  created : ∀ lease, e.createdLease? = some lease → ∃ admission ∈ m.admittedAdmission,
    ∃ grant ∈ m.admittedGrant, insideAuthority admission grant lease
  resolved : ∀ i, e.resolvedLease? = some i → ∃ lease,
    m.verificationLeasesById.lookup i = some lease ∧
      lease.issuedAt ≤ e.decisionTime ∧ e.decisionTime < lease.expiresAt
  expired : ∀ i, e.payload = .verificationLeaseExpired i → ∃ lease,
    m.verificationLeasesById.lookup i = some lease ∧ lease.expiresAt ≤ e.decisionTime

theorem Turn.decidedWithin {m t : Reduction} {e : EventV1} (ht : Turn m e t) :
    DecidedWithin m e := by
  -- An event that records, creates, resolves and expires nothing.
  have hnone : e.kind ∉ recordedKinds → DecidedWithin m e := by
    intro hk
    have hpayload : ∀ p : Payload, p.kind ∈ recordedKinds → e.payload ≠ p := by
      rintro p hp rfl
      exact hk hp
    refine ⟨?_, fun lease hl => ?_, fun i hi => ?_, fun i hi => ?_⟩
    · rintro (h | h) <;> exact absurd (h ▸ by decide) hk
    · unfold EventV1.createdLease? at hl
      split at hl
      · exact absurd ‹_› (hpayload _ (by simp [Payload.kind, recordedKinds, verificationKinds]))
      · exact absurd ‹_› (hpayload _ (by simp [Payload.kind, recordedKinds, verificationKinds]))
      · simp at hl
    · unfold EventV1.resolvedLease? at hi
      split at hi
      · exact absurd ‹_› (hpayload _ (by simp [Payload.kind, recordedKinds, verificationKinds]))
      · simp at hi
    · exact absurd hi (hpayload _ (by simp [Payload.kind, recordedKinds, verificationKinds]))
  cases ht with
  | candidateRecorded hp hfresh hlease hwindow hbudget =>
    exact ⟨fun _ => ⟨_, hlease, hwindow⟩, by simp [EventV1.createdLease?, hp],
      by simp [EventV1.resolvedLease?, hp], by simp [hp]⟩
  | parseFailed hp hlease hwindow hbudget =>
    exact ⟨fun _ => ⟨_, hlease, hwindow⟩, by simp [EventV1.createdLease?, hp],
      by simp [EventV1.resolvedLease?, hp], by simp [hp]⟩
  | leaseIssued hp hlease hnever =>
    refine ⟨by simp [EventBody.kind, hp, Payload.kind], fun lease hl => ?_,
      by simp [EventV1.resolvedLease?, hp], by simp [hp]⟩
    obtain rfl : _ = lease := by simpa [EventV1.createdLease?, hp] using hl
    exact ⟨_, hlease.hadmission, _, hlease.hgrant, hlease.hwindow⟩
  | leaseReassigned hp hpred hlatest hlast hsame hlease hverifier hsuper =>
    refine ⟨by simp [EventBody.kind, hp, Payload.kind], fun lease hl => ?_,
      by simp [EventV1.resolvedLease?, hp], by simp [hp]⟩
    obtain rfl : _ = lease := by simpa [EventV1.createdLease?, hp] using hl
    exact ⟨_, hlease.hadmission, _, hlease.hgrant, hlease.hwindow⟩
  | leaseExpired hp hlease hlatest hactive htime =>
    refine ⟨by simp [EventBody.kind, hp, Payload.kind], by simp [EventV1.createdLease?, hp],
      by simp [EventV1.resolvedLease?, hp], fun i hi => ?_⟩
    obtain rfl := Payload.verificationLeaseExpired.inj (hp.symm.trans hi)
    exact ⟨_, hlease, htime⟩
  | leaseCancelled hp =>
    exact ⟨by simp [EventBody.kind, hp, Payload.kind], by simp [EventV1.createdLease?, hp],
      by simp [EventV1.resolvedLease?, hp], by simp [hp]⟩
  | artifactsResolved hp hlease hactive hlatest hfresh hcandidate hresolved hwindow =>
    refine ⟨by simp [EventBody.kind, hp, Payload.kind], by simp [EventV1.createdLease?, hp],
      fun i hi => ?_, by simp [hp]⟩
    obtain rfl : _ = i := by simpa [EventV1.resolvedLease?, hp] using hi
    exact ⟨_, hlease, hresolved ▸ hwindow.1, hresolved ▸ hwindow.2⟩
  | receiptAdmitted hp =>
    exact ⟨by simp [EventBody.kind, hp, Payload.kind], by simp [EventV1.createdLease?, hp],
      by simp [EventV1.resolvedLease?, hp], by simp [hp]⟩
  | stopped hp =>
    refine hnone ?_
    rcases hp with hp | hp | hp | hp <;> simp only [EventBody.kind, hp, Payload.kind] <;> decide
  | _ => exact hnone (by simp only [EventBody.kind, Payload.kind, *]; decide)

theorem mem_createdLeases_of_lookup {first : EventV1} {h : List EventV1} {s : Reduction}
    {i : Digest} {lease : VerificationLeaseV1} (run : reduceLoop P first h = .ok s)
    (hl : s.verificationLeasesById.lookup i = some lease) :
    lease ∈ createdLeases h ∧ lease.leaseId = i :=
  ((reduceLoop_leaseRecords run).lookup i lease).mp hl

/-- The admitted authority of a stream is the one of any prefix that admitted it. -/
theorem admittedAuthority_append {pre : List EventV1} {ag : AuthorityAdmissionV1 × AuthorityGrantV1}
    (h : admittedAuthority pre = some ag) (post : List EventV1) :
    admittedAuthority (pre ++ post) = some ag := by
  simp only [admittedAuthority, List.findSome?_append] at h ⊢
  simp [h]

theorem issuedAnalysisLease_append {pre : List EventV1} {lease : AnalysisLeaseV1}
    (h : issuedAnalysisLease pre = some lease) (post : List EventV1) :
    issuedAnalysisLease (pre ++ post) = some lease := by
  simp only [issuedAnalysisLease, List.findSome?_append] at h ⊢
  simp [h]

theorem length_ofKinds_outputs (h : List EventV1) :
    (ofKinds [.candidateRecorded, .parseFailed] h).length =
      (ofKinds [.candidateRecorded] h).length + (ofKinds [.parseFailed] h).length := by
  induction h with
  | nil => rfl
  | cons e h ih =>
    simp only [ofKinds, List.filter_cons] at ih ⊢
    by_cases hc : e.kind = .candidateRecorded
    · simp [hc] at ih ⊢
      omega
    · by_cases hf : e.kind = .parseFailed
      · simp [hf] at ih ⊢
        omega
      · simpa [hc, hf] using ih

theorem length_createdLeases (h : List EventV1) : (createdLeases h).length =
    (ofKinds [.verificationLeaseIssued, .verificationLeaseReassigned] h).length := by
  induction h with
  | nil => rfl
  | cons e h ih =>
    simp only [createdLeases, ofKinds, List.filterMap_cons, List.filter_cons] at ih ⊢
    cases hp : e.payload <;> simp_all [EventV1.createdLease?, EventBody.kind, Payload.kind]

/-- Every decision of an accepted stream lies inside the authority that permits it. Decision
times never decrease; analysis outputs are recorded inside the analysis lease, which ends
with the grant, and within its budget; verification leases lie inside the grant and the
admission's wallclock ceiling, and their number within the grant's; resolutions and receipts
are decided inside their lease, and expiries not before its end. -/
theorem within_authority {events : List EventV1} {q : MissionProjection}
    (h : reduceEvents P events = .ok q) :
    events.Pairwise (fun a b => a.decisionTime ≤ b.decisionTime) ∧
    ∀ pre e post, events = pre ++ e :: post →
      (e.kind = .candidateRecorded ∨ e.kind = .parseFailed →
        ∃ lease admission grant, issuedAnalysisLease pre = some lease ∧
          admittedAuthority pre = some (admission, grant) ∧
          lease.issuedAt ≤ e.decisionTime ∧ e.decisionTime < lease.expiresAt ∧
          lease.expiresAt ≤ grant.expiresAt ∧
          (ofKinds [.candidateRecorded, .parseFailed] events).length ≤ lease.maxCandidates ∧
          lease.maxCandidates ≤ grant.maxCandidates) ∧
      (∀ lease, e.createdLease? = some lease →
        ∃ admission grant, admittedAuthority pre = some (admission, grant) ∧
          (∃ x ∈ pre, x.authority? = some (admission, grant) ∧
            x.decisionTime = admission.decisionTime) ∧
          admission.decisionTime ≤ lease.issuedAt ∧ lease.issuedAt < lease.expiresAt ∧
          lease.expiresAt ≤
            min grant.expiresAt (admission.decisionTime + grant.maxWallclockSeconds) ∧
          (createdLeases events).length ≤ grant.maxCandidates) ∧
      (∀ i, e.resolvedLease? = some i → ∃ lease ∈ createdLeases pre, lease.leaseId = i ∧
        lease.issuedAt ≤ e.decisionTime ∧ e.decisionTime < lease.expiresAt) ∧
      (∀ r, e.receipt? = some r → ∃ lease ∈ createdLeases pre, lease.leaseId = r.leaseId ∧
        lease.issuedAt ≤ e.decisionTime ∧ e.decisionTime < lease.expiresAt) ∧
      ∀ i, e.payload = .verificationLeaseExpired i → ∃ lease ∈ createdLeases pre,
        lease.leaseId = i ∧ lease.expiresAt ≤ e.decisionTime := by
  obtain ⟨first, rest, -, -, run⟩ := reduceEvents_eq_ok h
  refine ⟨(reduceLoop_times run).1, ?_⟩
  rintro pre e post rfl
  obtain ⟨m, m', hm, hstep, -⟩ := foldlM_split run
  obtain ⟨-, phase, t, -, hturn, -⟩ := step_turn hstep
  have hwithin := hturn.decidedWithin
  have hpre := reduceLoop_authorized hm
  have hall := reduceLoop_authorized run
  have hrec := reduceLoop_records run
  refine ⟨fun hk => ?_, fun lease hl => ?_, fun i hi => ?_, fun r hr => ?_, fun i hi => ?_⟩
  · obtain ⟨lease, hlease, hissued, hexpires⟩ := hwithin.output hk
    obtain ⟨grant, hgrant, hend, hbudget⟩ := hpre.window lease hlease
    have hissue : issuedAnalysisLease pre = some lease := hpre.lease ▸ hlease
    obtain ⟨⟨admission, g⟩, hag, rfl⟩ := Option.map_eq_some_iff.mp (hpre.grant ▸ hgrant)
    refine ⟨lease, admission, g, hissue, hag, hissued, hexpires, hend, ?_, hbudget⟩
    have hcount := hall.outputs lease (by
      rw [hall.lease, issuedAnalysisLease_append hissue]
      rfl)
    rwa [hrec.candidates, hrec.failures, ← length_ofKinds_outputs] at hcount
  · obtain ⟨admission, hadmission, grant, hgrant, hstart, hissued, hexpires⟩ :=
      hwithin.created lease hl
    obtain ⟨⟨a, g⟩, hag, rfl⟩ := Option.map_eq_some_iff.mp (hpre.admission ▸ hadmission)
    obtain rfl : g = grant := by
      rw [hpre.grant, hag] at hgrant
      exact Option.some.inj hgrant
    refine ⟨a, g, hag, admittedAuthority_event hm hag, hstart, hissued, hexpires, ?_⟩
    have hcount := hall.leases g (by
      rw [hall.grant, admittedAuthority_append hag]
      rfl)
    rwa [hrec.leases, ← length_createdLeases] at hcount
  · obtain ⟨lease, hlease, hwindow⟩ := hwithin.resolved i hi
    obtain ⟨hmem, hid⟩ := mem_createdLeases_of_lookup hm hlease
    exact ⟨lease, hmem, hid, hwindow⟩
  · obtain ⟨lease, hlease, -, -, -, -, hwindow⟩ := step_receipt hstep hr
    obtain ⟨hmem, hid⟩ := mem_createdLeases_of_lookup hm hlease
    exact ⟨lease, hmem, hid, hwindow⟩
  · obtain ⟨lease, hlease, htime⟩ := hwithin.expired i hi
    obtain ⟨hmem, hid⟩ := mem_createdLeases_of_lookup hm hlease
    exact ⟨lease, hmem, hid, htime⟩

/-- The sample mission's times and its receipt's window. -/
theorem within_authority_sample :
    ∃ q, reduceEvents samplePrimitives sampleMission = .ok q ∧
      sampleMission.Pairwise (fun a b => a.decisionTime ≤ b.decisionTime) ∧
      ∃ lease ∈ createdLeases (sampleMission.take 8), lease.leaseId = 402 ∧
        lease.issuedAt ≤ 50 ∧ 50 < lease.expiresAt := by
  obtain ⟨q, hq⟩ := sampleMission_accepted
  obtain ⟨htimes, hevents⟩ := within_authority hq
  obtain ⟨-, -, -, hreceipt, -⟩ := hevents (sampleMission.take 8)
    (sampleMission.get ⟨8, by decide⟩) (sampleMission.drop 9) rfl
  exact ⟨q, hq, htimes, hreceipt sampleReceipt rfl⟩

end Etzio
