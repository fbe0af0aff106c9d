import Mathlib
import Etzio.Turns

/-!
# The loop's variables as records of the stream

What the reducer's variables say about the events read so far. `Records` : the event lists
are the stream's events of their kinds, and the candidate dict and set hold exactly the
recorded candidates. `Authorized` : the grant, the admission and the analysis lease are the
ones the stream admitted first, since the transition table lets each be admitted once.
`reduceLoop_records` and `reduceLoop_authorized` hold after every run of the loop.
-/

open CheckedRun

namespace Etzio

variable {P : Primitives}

/-! ## Projections of a stream -/

/-- The candidate an event records. -/
def EventV1.candidate? (e : EventV1) : Option StaticCandidateV1 :=
  match e.payload with
  | .candidateRecorded c => some c
  | _ => none

/-- The verification lease an event creates. -/
def EventV1.createdLease? (e : EventV1) : Option VerificationLeaseV1 :=
  match e.payload with
  | .verificationLeaseIssued lease _ _ => some lease
  | .verificationLeaseReassigned lease _ _ _ _ => some lease
  | _ => none

/-- The lease whose inputs an event resolves. -/
def EventV1.resolvedLease? (e : EventV1) : Option Digest :=
  match e.payload with
  | .verificationArtifactsResolved r => some r.verificationLeaseId
  | _ => none

/-- The receipt an event admits. -/
def EventV1.receipt? (e : EventV1) : Option VerifierReceiptV1 :=
  match e.payload with
  | .verifierReceiptAdmitted _ _ _ signed _ => some signed.receipt
  | _ => none

/-- The admission and grant an event admits. -/
def EventV1.authority? (e : EventV1) : Option (AuthorityAdmissionV1 × AuthorityGrantV1) :=
  match e.payload with
  | .authorityAdmitted admission grant _ _ => some (admission, grant)
  | _ => none

/-- The analysis lease an event issues. -/
def EventV1.analysisLease? (e : EventV1) : Option AnalysisLeaseV1 :=
  match e.payload with
  | .analysisLeaseIssued lease => some lease
  | _ => none

/-- The verification leases a stream creates, in order. -/
def createdLeases (h : List EventV1) : List VerificationLeaseV1 :=
  h.filterMap EventV1.createdLease?

/-- The leases whose inputs a stream resolves. -/
def resolvedLeases (h : List EventV1) : List Digest :=
  h.filterMap EventV1.resolvedLease?

/-- The receipts a stream admits. -/
def admittedReceipts (h : List EventV1) : List VerifierReceiptV1 :=
  h.filterMap EventV1.receipt?

/-- The authority a stream admits. -/
def admittedAuthority (h : List EventV1) : Option (AuthorityAdmissionV1 × AuthorityGrantV1) :=
  h.findSome? EventV1.authority?

/-- The analysis lease a stream issues. -/
def issuedAnalysisLease (h : List EventV1) : Option AnalysisLeaseV1 :=
  h.findSome? EventV1.analysisLease?

/-- The events of some kinds, in order. -/
def ofKinds (kinds : List EventKind) (h : List EventV1) : List EventV1 :=
  h.filter fun e => e.kind ∈ kinds

/-- The six kinds of verification events. -/
def verificationKinds : List EventKind :=
  [.verificationLeaseIssued, .verificationLeaseExpired, .verificationLeaseCancelled,
    .verificationLeaseReassigned, .verificationArtifactsResolved, .verifierReceiptAdmitted]

theorem ofKinds_snoc (kinds : List EventKind) (h : List EventV1) (e : EventV1) :
    ofKinds kinds (h ++ [e]) = ofKinds kinds h ++ if e.kind ∈ kinds then [e] else [] := by
  simp only [ofKinds, List.filter_append, List.filter_cons, List.filter_nil, decide_eq_true_eq]

/-! ## The transition table -/

instance : Fintype Phase where
  elems := {.start, .admitted, .open, .analyzing, .scanCompleted, .awaitingVerification, .closed,
    .refused, .failed, .cancelled, .timedOut, .budgetExhausted}
  complete p := by cases p <;> decide

theorem nextPhase_ne_start (k : EventKind) : ∀ p, ∀ q ∈ nextPhase p k, q ≠ .start := by
  cases k <;> decide

theorem nextPhase_authorityAdmitted :
    ∀ p, ∀ q ∈ nextPhase p .authorityAdmitted, p = .start := by decide

/-- The phases before an analysis lease is issued. -/
def Phase.early (p : Phase) : Prop := p = .start ∨ p = .admitted ∨ p = .open

instance (p : Phase) : Decidable p.early := inferInstanceAs (Decidable (_ ∨ _))

theorem nextPhase_early (k : EventKind) :
    ∀ p, ∀ q ∈ nextPhase p k, q.early → p.early ∧ k ≠ .analysisLeaseIssued := by
  cases k <;> decide

theorem nextPhase_analysisLeaseIssued :
    ∀ p, ∀ q ∈ nextPhase p .analysisLeaseIssued, p.early := by decide

theorem nextPhase_analyzing (k : EventKind) : ∀ p, ∀ q ∈ nextPhase p k,
    q.early ∨ q = .analyzing → (p.early ∨ p = .analyzing) ∧ k ≠ .scanCompleted := by
  cases k <;> decide

theorem nextPhase_analysisOutput (k : EventKind) : ∀ p, ∀ q ∈ nextPhase p k,
    k = .candidateRecorded ∨ k = .parseFailed → p = .analyzing := by
  cases k <;> decide

theorem transition_eq_ok {p q : Phase} {k : EventKind} (h : transition p k = .ok q) :
    q ∈ nextPhase p k := by
  simpa [transition] using h

/-! ## Records -/

/-- The event lists and the candidate variables after the events `h`. -/
structure Records (h : List EventV1) (s : Reduction) : Prop where
  candidates : s.candidates = ofKinds [.candidateRecorded] h
  failures : s.failures = ofKinds [.parseFailed] h
  leases : s.verificationLeaseEvents =
    ofKinds [.verificationLeaseIssued, .verificationLeaseReassigned] h
  expiries : s.verificationLeaseExpiryEvents = ofKinds [.verificationLeaseExpired] h
  cancellations : s.verificationLeaseCancellationEvents = ofKinds [.verificationLeaseCancelled] h
  reassignments : s.verificationLeaseReassignmentEvents = ofKinds [.verificationLeaseReassigned] h
  resolutions : s.verificationArtifactResolutionEvents =
    ofKinds [.verificationArtifactsResolved] h
  receipts : s.verificationReceiptAdmissionEvents = ofKinds [.verifierReceiptAdmitted] h
  candidateIds : ∀ c, c ∈ s.candidateIds ↔ ∃ e ∈ h, ∃ k, e.candidate? = some k ∧ k.candidateId = c
  candidateEvents : ∀ c e, s.candidateEventsById.lookup c = some e →
    e ∈ h ∧ ∃ k, e.candidate? = some k ∧ k.candidateId = c

/-- A superseded predecessor leaves the event lists and the candidates alone. -/
theorem Records.supersession {h : List EventV1} {s t : Reduction} {e : EventV1}
    {predecessor : VerificationLeaseV1} (ih : Records h s)
    (hsuper : Supersession s e predecessor t) : Records h t := by
  cases hsuper with
  | active hactive htime => exact { ih with }
  | recovered hactive hdisposed => exact ih

/-- The kinds whose events the loop retains. -/
def recordedKinds : List EventKind :=
  .candidateRecorded :: .parseFailed :: verificationKinds

theorem candidate?_eq_none {e : EventV1} (h : e.kind ≠ .candidateRecorded) :
    e.candidate? = none := by
  unfold EventV1.candidate?
  split
  · rename_i hp
    exact absurd (by simp [EventBody.kind, hp, Payload.kind]) h
  · rfl

/-- The variables after one more event : each list has the event if it is of the kinds of the
list, and only a candidate's event changes the candidate variables. -/
structure Recorded (s : Reduction) (e : EventV1) (t : Reduction) : Prop where
  candidates : t.candidates = s.candidates ++ if e.kind ∈ [.candidateRecorded] then [e] else []
  failures : t.failures = s.failures ++ if e.kind ∈ [.parseFailed] then [e] else []
  leases : t.verificationLeaseEvents = s.verificationLeaseEvents ++
    if e.kind ∈ [.verificationLeaseIssued, .verificationLeaseReassigned] then [e] else []
  expiries : t.verificationLeaseExpiryEvents = s.verificationLeaseExpiryEvents ++
    if e.kind ∈ [.verificationLeaseExpired] then [e] else []
  cancellations : t.verificationLeaseCancellationEvents = s.verificationLeaseCancellationEvents ++
    if e.kind ∈ [.verificationLeaseCancelled] then [e] else []
  reassignments : t.verificationLeaseReassignmentEvents = s.verificationLeaseReassignmentEvents ++
    if e.kind ∈ [.verificationLeaseReassigned] then [e] else []
  resolutions : t.verificationArtifactResolutionEvents = s.verificationArtifactResolutionEvents ++
    if e.kind ∈ [.verificationArtifactsResolved] then [e] else []
  receipts : t.verificationReceiptAdmissionEvents = s.verificationReceiptAdmissionEvents ++
    if e.kind ∈ [.verifierReceiptAdmitted] then [e] else []
  candidateIds : e.kind ≠ .candidateRecorded → t.candidateIds = s.candidateIds
  candidateEvents : e.kind ≠ .candidateRecorded →
    t.candidateEventsById = s.candidateEventsById

/-- The records after one more event, given the candidate variables. -/
theorem Records.recorded {h : List EventV1} {s t : Reduction} {e : EventV1} (ih : Records h s)
    (hr : Recorded s e t)
    (hids : ∀ c, c ∈ t.candidateIds ↔
      ∃ x ∈ h ++ [e], ∃ k, x.candidate? = some k ∧ k.candidateId = c)
    (hevents : ∀ c x, t.candidateEventsById.lookup c = some x →
      x ∈ h ++ [e] ∧ ∃ k, x.candidate? = some k ∧ k.candidateId = c) : Records (h ++ [e]) t where
  candidates := by rw [hr.candidates, ih.candidates, ofKinds_snoc]
  failures := by rw [hr.failures, ih.failures, ofKinds_snoc]
  leases := by rw [hr.leases, ih.leases, ofKinds_snoc]
  expiries := by rw [hr.expiries, ih.expiries, ofKinds_snoc]
  cancellations := by rw [hr.cancellations, ih.cancellations, ofKinds_snoc]
  reassignments := by rw [hr.reassignments, ih.reassignments, ofKinds_snoc]
  resolutions := by rw [hr.resolutions, ih.resolutions, ofKinds_snoc]
  receipts := by rw [hr.receipts, ih.receipts, ofKinds_snoc]
  candidateIds := hids
  candidateEvents := hevents

/-- An event of another kind keeps the candidate variables. -/
theorem Records.other {h : List EventV1} {s t : Reduction} {e : EventV1} (ih : Records h s)
    (hk : e.kind ≠ .candidateRecorded) (hr : Recorded s e t) : Records (h ++ [e]) t := by
  refine ih.recorded hr (fun c => ?_) (fun c x hx => ?_)
  · rw [hr.candidateIds hk]
    simp [ih.candidateIds, or_and_right, exists_or, candidate?_eq_none hk]
  · rw [hr.candidateEvents hk] at hx
    obtain ⟨hmem, hk⟩ := ih.candidateEvents c x hx
    exact ⟨List.mem_append_left _ hmem, hk⟩

/-- An event of no recorded kind. -/
theorem Records.keep {h : List EventV1} {s : Reduction} {e : EventV1} (ih : Records h s)
    (hk : e.kind ∉ recordedKinds) : Records (h ++ [e]) s := by
  simp only [recordedKinds, verificationKinds, List.mem_cons, not_or, List.not_mem_nil,
    not_false_eq_true, and_true] at hk
  obtain ⟨h1, h2, h3, h4, h5, h6, h7, h8⟩ := hk
  exact ih.other h1 (by constructor <;> simp [*])

theorem Records.turn {h : List EventV1} {s t : Reduction} {e : EventV1} (ih : Records h s)
    (ht : Turn s e t) : Records (h ++ [e]) t := by
  cases ht with
  | @candidateRecorded c _ hp hfresh =>
    have hk : e.kind = .candidateRecorded := by simp only [EventBody.kind, hp, Payload.kind]
    have hc : e.candidate? = some c := by simp only [EventV1.candidate?, hp]
    refine ih.recorded (by constructor <;> simp [hk]) (fun d => ?_) (fun d x hx => ?_)
    · simp [ih.candidateIds, or_and_right, exists_or, hc, or_comm, eq_comm]
    · rw [Dict.lookup_insert] at hx
      split_ifs at hx with hd
      · obtain rfl : e = x := Option.some.inj hx
        exact ⟨by simp, c, hc, hd.symm⟩
      · obtain ⟨hmem, hk⟩ := ih.candidateEvents d x hx
        exact ⟨List.mem_append_left _ hmem, hk⟩
  | parseFailed hp =>
    have hk : e.kind = .parseFailed := by simp only [EventBody.kind, hp, Payload.kind]
    exact ih.other (by simp [hk]) (by constructor <;> simp [hk])
  | leaseIssued hp =>
    have hk : e.kind = .verificationLeaseIssued := by simp only [EventBody.kind, hp, Payload.kind]
    exact ih.other (by simp [hk]) (by constructor <;> simp [hk, Reduction.addLease])
  | leaseExpired hp =>
    have hk : e.kind = .verificationLeaseExpired := by simp only [EventBody.kind, hp, Payload.kind]
    exact ih.other (by simp [hk]) (by constructor <;> simp [hk])
  | leaseCancelled hp =>
    have hk : e.kind = .verificationLeaseCancelled := by
      simp only [EventBody.kind, hp, Payload.kind]
    exact ih.other (by simp [hk]) (by constructor <;> simp [hk])
  | leaseReassigned hp _ _ _ _ _ _ hsuper =>
    have hk : e.kind = .verificationLeaseReassigned := by
      simp only [EventBody.kind, hp, Payload.kind]
    exact (ih.supersession hsuper).other (by simp [hk])
      (by constructor <;> simp [hk, Reduction.addLease])
  | artifactsResolved hp =>
    have hk : e.kind = .verificationArtifactsResolved := by
      simp only [EventBody.kind, hp, Payload.kind]
    exact ih.other (by simp [hk]) (by constructor <;> simp [hk])
  | receiptAdmitted hp =>
    have hk : e.kind = .verifierReceiptAdmitted := by simp only [EventBody.kind, hp, Payload.kind]
    exact ih.other (by simp [hk]) (by constructor <;> simp [hk])
  | stopped hp =>
    have hk : e.kind ∉ recordedKinds := by
      rcases hp with hp | hp | hp | hp <;> simp only [EventBody.kind, hp, Payload.kind] <;> decide
    exact { ih.keep hk with }
  | _ => exact { ih.keep (e := e) (by simp only [EventBody.kind, Payload.kind, *]; decide) with }

/-- The records hold after every run of the loop. -/
theorem reduceLoop_records {first : EventV1} {events : List EventV1} {s : Reduction}
    (run : reduceLoop P first events = .ok s) : Records events s := by
  refine foldlM_invariant Records ?_ ?_ run
  · constructor <;> simp [Reduction.initial, ofKinds]
  · intro h s e s' _ ih hstep
    obtain ⟨-, phase, t, -, hturn, rfl⟩ := step_turn hstep
    exact { ih.turn hturn with }

/-! ## Authority, budgets and time -/

/-- The admitted authority and the analysis lease after the events `h`, with their budgets. -/
structure Authorized (h : List EventV1) (s : Reduction) : Prop where
  start : s.phase = .start → h = []
  early : s.phase.early → s.analysisLease = none
  admission : s.admittedAdmission = (admittedAuthority h).map Prod.fst
  grant : s.admittedGrant = (admittedAuthority h).map Prod.snd
  lease : s.analysisLease = issuedAnalysisLease h
  window : ∀ l ∈ s.analysisLease, ∃ g ∈ s.admittedGrant,
    l.expiresAt ≤ g.expiresAt ∧ l.maxCandidates ≤ g.maxCandidates
  idle : s.analysisLease = none → s.candidates = [] ∧ s.failures = []
  outputs : ∀ l ∈ s.analysisLease, s.candidates.length + s.failures.length ≤ l.maxCandidates
  leases : ∀ g ∈ s.admittedGrant, s.verificationLeaseEvents.length ≤ g.maxCandidates

theorem findSome?_snoc {β : Type} (f : EventV1 → Option β) (h : List EventV1) (e : EventV1) :
    (h ++ [e]).findSome? f = (h.findSome? f).or (f e) := by
  simp [List.findSome?_append]

/-- The authority, the lease and the phase after an event that admits neither. -/
theorem Authorized.frame {h : List EventV1} {s t : Reduction} {e : EventV1} {phase : Phase}
    (ih : Authorized h s) (hphase : phase ∈ nextPhase s.phase e.kind)
    (ha : e.authority? = none) (hl : e.analysisLease? = none)
    (hadmission : t.admittedAdmission = s.admittedAdmission)
    (hgrant : t.admittedGrant = s.admittedGrant) (hlease : t.analysisLease = s.analysisLease)
    (hidle : s.analysisLease = none → t.candidates = [] ∧ t.failures = [])
    (houtputs : ∀ l ∈ s.analysisLease, t.candidates.length + t.failures.length ≤ l.maxCandidates)
    (hleases : ∀ g ∈ s.admittedGrant, t.verificationLeaseEvents.length ≤ g.maxCandidates) :
    Authorized (h ++ [e]) (t.advance phase e) where
  start hstart := absurd hstart (nextPhase_ne_start _ _ _ hphase)
  early hearly := hlease.trans (ih.early (nextPhase_early _ _ _ hphase hearly).1)
  admission := by
    rw [admittedAuthority, findSome?_snoc, ha, Option.or_none]
    exact hadmission.trans ih.admission
  grant := by
    rw [admittedAuthority, findSome?_snoc, ha, Option.or_none]
    exact hgrant.trans ih.grant
  lease := by
    rw [issuedAnalysisLease, findSome?_snoc, hl, Option.or_none]
    exact hlease.trans ih.lease
  window := by
    simp only [Reduction.advance, hgrant, hlease]
    exact ih.window
  idle hnone := hidle (hlease ▸ hnone)
  outputs l hmem := houtputs l (hlease ▸ hmem)
  leases g hmem := hleases g (hgrant ▸ hmem)

theorem Authorized.turn {h : List EventV1} {s t : Reduction} {e : EventV1} {phase : Phase}
    (hrec : Records h s) (ih : Authorized h s) (hphase : phase ∈ nextPhase s.phase e.kind)
    (ht : Turn s e t) : Authorized (h ++ [e]) (t.advance phase e) := by
  cases ht with
  | @authorityAdmitted admission grant _ _ hp =>
    have hk : e.kind = .authorityAdmitted := by simp only [EventBody.kind, hp, Payload.kind]
    have hstart : s.phase = .start := nextPhase_authorityAdmitted _ _ (hk ▸ hphase)
    obtain rfl := ih.start hstart
    have hnone := ih.early (Or.inl hstart)
    refine ⟨fun hs => absurd hs (nextPhase_ne_start _ _ _ hphase), fun _ => hnone, ?_, ?_, ?_,
      ?_, fun _ => ih.idle hnone, ?_, ?_⟩
    · simp [admittedAuthority, EventV1.authority?, hp, Reduction.advance]
    · simp [admittedAuthority, EventV1.authority?, hp, Reduction.advance]
    · simpa [issuedAnalysisLease, EventV1.analysisLease?, hp, Reduction.advance] using hnone
    · simp [Reduction.advance, hnone]
    · simp [Reduction.advance, hnone]
    · simp [Reduction.advance, hrec.leases, ofKinds]
  | @analysisLeaseIssued lease grant hp hgrant hexpires hbudget hwindow =>
    have hk : e.kind = .analysisLeaseIssued := by simp only [EventBody.kind, hp, Payload.kind]
    have hnone := ih.early (nextPhase_analysisLeaseIssued _ _ (hk ▸ hphase))
    have ha : e.authority? = none := by simp only [EventV1.authority?, hp]
    have hl : e.analysisLease? = some lease := by simp only [EventV1.analysisLease?, hp]
    obtain ⟨hc, hf⟩ := ih.idle hnone
    refine ⟨fun hs => absurd hs (nextPhase_ne_start _ _ _ hphase), ?_, ?_, ?_, ?_, ?_, ?_, ?_,
      ih.leases⟩
    · intro hearly
      exact absurd hk (nextPhase_early _ _ _ hphase hearly).2
    · rw [admittedAuthority, findSome?_snoc, ha, Option.or_none]
      exact ih.admission
    · rw [admittedAuthority, findSome?_snoc, ha, Option.or_none]
      exact ih.grant
    · rw [issuedAnalysisLease, findSome?_snoc, hl, ← issuedAnalysisLease, ← ih.lease, hnone]
      rfl
    · intro l hmem
      obtain rfl : lease = l := by simpa [Reduction.advance] using hmem
      exact ⟨grant, hgrant, hexpires, hbudget⟩
    · intro hsome
      simp [Reduction.advance] at hsome
    · simp [Reduction.advance, hc, hf]
  | candidateRecorded hp hfresh hlease hwindow hbudget =>
    refine ih.frame hphase (by simp only [EventV1.authority?, hp])
      (by simp only [EventV1.analysisLease?, hp]) rfl rfl rfl (by simp [hlease]) ?_ ih.leases
    intro l hl
    obtain rfl := Option.some.inj (hlease.symm.trans hl)
    simp only [List.length_append, List.length_singleton]
    omega
  | parseFailed hp hlease hwindow hbudget =>
    refine ih.frame hphase (by simp only [EventV1.authority?, hp])
      (by simp only [EventV1.analysisLease?, hp]) rfl rfl rfl (by simp [hlease]) ?_ ih.leases
    intro l hl
    obtain rfl := Option.some.inj (hlease.symm.trans hl)
    simp only [List.length_append, List.length_singleton]
    omega
  | leaseIssued hp hlease hnever =>
    refine ih.frame hphase (by simp only [EventV1.authority?, hp])
      (by simp only [EventV1.analysisLease?, hp]) rfl rfl rfl ih.idle ih.outputs ?_
    intro g hg
    obtain rfl := Option.some.inj (hlease.hgrant.symm.trans hg)
    simpa [Reduction.addLease] using hlease.hcount
  | @leaseReassigned _ _ _ _ _ _ _ _ _ u hp _ _ _ _ hlease _ hsuper =>
    have ha : e.authority? = none := by simp only [EventV1.authority?, hp]
    have hl : e.analysisLease? = none := by simp only [EventV1.analysisLease?, hp]
    have hcount : ∀ g ∈ s.admittedGrant,
        s.verificationLeaseEvents.length + 1 ≤ g.maxCandidates := by
      intro g hg
      obtain rfl := Option.some.inj (hlease.hgrant.symm.trans hg)
      exact hlease.hcount
    cases hsuper with
    | active hactive htime =>
      exact ih.frame hphase ha hl rfl rfl rfl ih.idle ih.outputs
        (by simpa [Reduction.addLease] using hcount)
    | recovered hactive hdisposed =>
      exact ih.frame hphase ha hl rfl rfl rfl ih.idle ih.outputs
        (by simpa [Reduction.addLease] using hcount)
  | stopped hp =>
    have hnone : e.authority? = none ∧ e.analysisLease? = none := by
      rcases hp with hp | hp | hp | hp <;> simp [EventV1.authority?, EventV1.analysisLease?, hp]
    exact ih.frame hphase hnone.1 hnone.2 rfl rfl rfl ih.idle ih.outputs ih.leases
  | _ =>
    exact ih.frame hphase (by simp only [EventV1.authority?, *])
      (by simp only [EventV1.analysisLease?, *]) rfl rfl rfl ih.idle ih.outputs ih.leases

/-- The admitted authority and the budgets hold after every run of the loop. -/
theorem reduceLoop_authorized {first : EventV1} {events : List EventV1} {s : Reduction}
    (run : reduceLoop P first events = .ok s) : Authorized events s := by
  refine foldlM_invariant Authorized ?_ ?_ run
  · constructor <;> simp [Reduction.initial, admittedAuthority, issuedAnalysisLease]
  · intro h s e s' hrun ih hstep
    obtain ⟨-, phase, t, hphase, hturn, rfl⟩ := step_turn hstep
    exact ih.turn (reduceLoop_records hrun) (transition_eq_ok hphase) hturn

/-- Decision times never decrease along an accepted stream. -/
theorem reduceLoop_times {first : EventV1} {events : List EventV1} {s : Reduction}
    (run : reduceLoop P first events = .ok s) :
    events.Pairwise (fun a b => a.decisionTime ≤ b.decisionTime) ∧
      ∀ x ∈ events, ∃ t ∈ s.previousDecisionTime, x.decisionTime ≤ t := by
  refine foldlM_invariant (fun h s => h.Pairwise (fun a b => a.decisionTime ≤ b.decisionTime) ∧
      ∀ x ∈ h, ∃ t ∈ s.previousDecisionTime, x.decisionTime ≤ t) (by simp) ?_ run
  rintro h s e s' - ⟨hpair, hlast⟩ hstep
  obtain ⟨hheader, phase, t, -, -, rfl⟩ := step_turn hstep
  have hle : ∀ x ∈ h, x.decisionTime ≤ e.decisionTime := by
    intro x hx
    obtain ⟨u, hu, hxu⟩ := hlast x hx
    exact hxu.trans (hheader.htime u hu)
  refine ⟨List.pairwise_append.mpr ⟨hpair, by simp, by simpa using hle⟩, fun x hx => ?_⟩
  refine ⟨e.decisionTime, rfl, ?_⟩
  rcases List.mem_append.mp hx with hx | hx
  · exact hle x hx
  · rw [List.mem_singleton.mp hx]

/-- Every event of an accepted stream passes its own verification. -/
theorem reduceLoop_verify {first x : EventV1} {events : List EventV1} {s : Reduction}
    (run : reduceLoop P first events = .ok s) (hx : x ∈ events) : x.verify P = .ok () := by
  obtain ⟨pre, post, rfl⟩ := List.append_of_mem hx
  obtain ⟨m, m', -, hstep, -⟩ := foldlM_split run
  exact (step_turn hstep).1.hverify

/-- The admitted authority comes from an event of the stream, decided at its time. -/
theorem admittedAuthority_event {first : EventV1} {events : List EventV1} {s : Reduction}
    {a : AuthorityAdmissionV1} {g : AuthorityGrantV1} (run : reduceLoop P first events = .ok s)
    (h : admittedAuthority events = some (a, g)) :
    ∃ x ∈ events, x.authority? = some (a, g) ∧ x.decisionTime = a.decisionTime := by
  obtain ⟨x, hx, ha⟩ := List.exists_of_findSome?_eq_some h
  refine ⟨x, hx, ha, ?_⟩
  have hverify := reduceLoop_verify run hx
  unfold EventV1.authority? at ha
  split at ha
  · rename_i hp
    obtain ⟨rfl, rfl⟩ := Prod.mk.inj (Option.some.inj ha)
    simp only [EventV1.verify, validatePayload, unit_bind_eq_ok, hp, refuseIf_eq_ok, not_or,
      not_not] at hverify
    exact hverify.2.1.2.2.1.2.2.1.symm
  · simp at ha

end Etzio
