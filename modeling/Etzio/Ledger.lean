import Etzio.MissionLaws

/-!
# What the loop retains of a stream

The loop's variables are read off the stream : the position of the chain (`Positioned`), the
identities (`reduceLoop_identities`), the target snapshot and the lookups of leases,
resolutions and receipts (`Lookups`), the scan summary and the terminal event (`Staged`). The
commands search the event lists where the reducer looks into its dicts, and
`reduceLoop_lookups` is why both find the same values.
-/

open CheckedRun LeaseBook

namespace Etzio

variable {P : Primitives}

/-- The target snapshot an event opens the mission with. -/
def EventV1.snapshot? (e : EventV1) : Option TargetSnapshotV1 :=
  match e.payload with
  | .missionOpened snapshot => some snapshot
  | _ => none

/-- The resolution an event retains. -/
def EventV1.resolution? (e : EventV1) : Option VerificationArtifactResolutionV1 :=
  match e.payload with
  | .verificationArtifactsResolved r => some r
  | _ => none

/-- The resolutions a stream retains, in order. -/
def retainedResolutions (h : List EventV1) : List VerificationArtifactResolutionV1 :=
  h.filterMap EventV1.resolution?

/-- `projection.is_terminal`. -/
def Phase.isTerminal (p : Phase) : Prop :=
  p = .closed ∨ p = .refused ∨ p = .failed ∨ p = .cancelled ∨ p = .timedOut ∨
    p = .budgetExhausted

instance (p : Phase) : Decidable p.isTerminal := inferInstanceAs (Decidable (_ ∨ _))

/-- The phases from the completed scan to the closure. -/
def Phase.scanned (p : Phase) : Prop := p = .scanCompleted ∨ p = .awaitingVerification

instance (p : Phase) : Decidable p.scanned := inferInstanceAs (Decidable (_ ∨ _))

/-- The digest that the event after `h` names as its predecessor. -/
def headDigest (h : List EventV1) : Digest :=
  (h.getLast?.map EventV1.eventDigest).getD genesisDigest

@[simp] theorem headDigest_snoc (h : List EventV1) (e : EventV1) :
    headDigest (h ++ [e]) = e.eventDigest := by
  simp [headDigest]

/-! ## The transition table -/

theorem nextPhase_terminal (k : EventKind) : ∀ p, ∀ q ∈ nextPhase p k, ¬p.isTerminal := by
  cases k <;> decide

theorem nextPhase_scanned (k : EventKind) : ∀ p, ∀ q ∈ nextPhase p k,
    q.scanned → p.scanned ∨ k = .scanCompleted := by
  cases k <;> decide

theorem nextPhase_awaiting (k : EventKind) : ∀ p, ∀ q ∈ nextPhase p k,
    q = .awaitingVerification → p = .awaitingVerification ∨ k = .verificationLeaseIssued := by
  cases k <;> decide

theorem nextPhase_missionOpened : ∀ p, ∀ q ∈ nextPhase p .missionOpened,
    p = .admitted ∧ q = .open := by decide

theorem nextPhase_unopened (k : EventKind) : ∀ p, ∀ q ∈ nextPhase p k,
    q = .start ∨ q = .admitted → p = .start := by
  cases k <;> decide

/-- The kinds that end a mission. -/
theorem nextPhase_isTerminal (k : EventKind) : ∀ p, ∀ q ∈ nextPhase p k,
    (q.isTerminal ↔ k ∈ ([.missionAdmissionRefused, .missionClosed, .scanFailed, .scanTimedOut,
      .scanCancelled, .budgetExhausted] : List EventKind)) := by
  cases k <;> decide

/-! ## Position -/

/-- The position of the chain after the events `h`, and its identities. -/
structure Positioned (h : List EventV1) (s : Reduction) : Prop where
  seq : s.expectedSeq = h.length
  prev : s.expectedPrev = headDigest h
  time : s.previousDecisionTime = h.getLast?.map fun e => e.decisionTime
  identities : ∀ e ∈ h, e.missionId = s.missionId ∧ e.authorityId = s.authorityId ∧
    e.targetId = s.targetId

theorem Supersession.identities {s t : Reduction} {e : EventV1}
    {predecessor : VerificationLeaseV1} (h : Supersession s e predecessor t) :
    (t.missionId = s.missionId ∧ t.authorityId = s.authorityId ∧ t.targetId = s.targetId) ∧
      t.expectedSeq = s.expectedSeq := by
  cases h <;> exact ⟨⟨rfl, rfl, rfl⟩, rfl⟩

theorem Turn.identities {s t : Reduction} {e : EventV1} (h : Turn s e t) :
    (t.missionId = s.missionId ∧ t.authorityId = s.authorityId ∧ t.targetId = s.targetId) ∧
      t.expectedSeq = s.expectedSeq := by
  cases h with
  | leaseReassigned _ _ _ _ _ _ _ hsuper => exact hsuper.identities
  | _ => exact ⟨⟨rfl, rfl, rfl⟩, rfl⟩

theorem reduceLoop_positioned {first : EventV1} {events : List EventV1} {s : Reduction}
    (run : reduceLoop P first events = .ok s) : Positioned events s := by
  refine foldlM_invariant Positioned ⟨rfl, rfl, rfl, by simp⟩ ?_ run
  intro h s e s' _ ih hstep
  obtain ⟨hheader, phase, t, -, hturn, rfl⟩ := step_turn hstep
  obtain ⟨⟨hm, ha, ht⟩, hseq⟩ := hturn.identities
  refine ⟨?_, by simp [Reduction.advance], by simp [Reduction.advance], fun x hx => ?_⟩
  · simp [Reduction.advance, hseq, ih.seq]
  · simp only [Reduction.advance, hm, ha, ht]
    rcases List.mem_append.mp hx with hx | hx
    · exact ih.identities x hx
    · obtain rfl := List.mem_singleton.mp hx
      exact ⟨hheader.hmission, hheader.hauthority, hheader.htarget⟩

/-- The identities of the loop are those of the first event. -/
theorem reduceLoop_identities {first : EventV1} {events : List EventV1} {s : Reduction}
    (run : reduceLoop P first events = .ok s) :
    s.missionId = first.missionId ∧ s.authorityId = first.authorityId ∧
      s.targetId = first.targetId := by
  refine foldlM_invariant (fun _ s => s.missionId = first.missionId ∧
    s.authorityId = first.authorityId ∧ s.targetId = first.targetId) ⟨rfl, rfl, rfl⟩ ?_ run
  intro h s e s' _ ih hstep
  obtain ⟨-, phase, t, -, hturn, rfl⟩ := step_turn hstep
  obtain ⟨⟨hm, ha, ht⟩, -⟩ := hturn.identities
  simp only [Reduction.advance, hm, ha, ht]
  exact ih

/-! ## Lookups -/

/-- Looking up an inserted value that a list of values found nothing for. -/
theorem lookup_insert_eq_find? {V : Type} {d : Dict V} {l : List V} {key : V → Digest}
    (hd : ∀ i, d.lookup i = l.find? fun v => key v = i) (v : V) (hfresh : d.lookup (key v) = none)
    (i : Digest) : (d.insert (key v) v).lookup i = (l ++ [v]).find? fun v => key v = i := by
  rw [Dict.lookup_insert, List.find?_append]
  by_cases hi : i = key v
  · subst hi
    simp [← hd, hfresh]
  · simp [hi, Ne.symm hi, hd]

theorem resolvedLeases_snoc (h : List EventV1) (e : EventV1) :
    resolvedLeases (h ++ [e]) = resolvedLeases h ++ e.resolvedLease?.toList := by
  cases he : e.resolvedLease? <;> simp [resolvedLeases, List.filterMap_append, he]

theorem retainedResolutions_snoc (h : List EventV1) (e : EventV1) :
    retainedResolutions (h ++ [e]) = retainedResolutions h ++ e.resolution?.toList := by
  cases he : e.resolution? <;> simp [retainedResolutions, List.filterMap_append, he]

theorem admittedReceipts_snoc (h : List EventV1) (e : EventV1) :
    admittedReceipts (h ++ [e]) = admittedReceipts h ++ e.receipt?.toList := by
  cases he : e.receipt? <;> simp [admittedReceipts, List.filterMap_append, he]

/-- The lookups of the loop after the events `h`. -/
structure Lookups (h : List EventV1) (s : Reduction) : Prop where
  unopened : s.phase = .start ∨ s.phase = .admitted → s.targetSnapshot = none
  snapshot : s.targetSnapshot = h.findSome? EventV1.snapshot?
  candidateEvents : ∀ c ∈ s.candidateIds, ∃ x, s.candidateEventsById.lookup c = some x
  leases : ∀ i, s.verificationLeasesById.lookup i =
    (createdLeases h).find? fun l => l.leaseId = i
  resolved : ∀ i, i ∈ s.resolvedVerificationLeaseIds ↔ i ∈ resolvedLeases h
  resolutions : ∀ i, s.verificationResolutionsByLeaseId.lookup i =
    (retainedResolutions h).find? fun r => r.verificationLeaseId = i
  receipts : ∀ i, i ∈ s.admittedVerifierReceiptIds ↔ ∃ r ∈ admittedReceipts h, r.receiptId = i

theorem resolvedLeases_eq (h : List EventV1) :
    resolvedLeases h =
      (retainedResolutions h).map VerificationArtifactResolutionV1.verificationLeaseId := by
  simp only [resolvedLeases, retainedResolutions, List.map_filterMap]
  congr 1
  funext e
  unfold EventV1.resolvedLease? EventV1.resolution?
  split <;> simp_all

theorem resolution_none_of_fresh {h : List EventV1} {i : Digest} (hi : i ∉ resolvedLeases h) :
    (retainedResolutions h).find? (fun r => r.verificationLeaseId = i) = none := by
  rw [resolvedLeases_eq] at hi
  simpa [List.find?_eq_none] using hi

/-- A lease id that is not retained is looked up in vain. -/
theorem Represents.lookup_fresh {h : List EventV1} {s : Reduction} {b : Book Digest Digest}
    (hb : Steps (leaseMoves h) .empty b) (hr : Represents s b) {i : Digest}
    (hi : i ∉ s.verificationLeaseIds) : s.verificationLeasesById.lookup i = none := by
  cases hl : s.verificationLeasesById.lookup i with
  | none => rfl
  | some l =>
    have hjob : b.job i = some l.candidateId := by simp [hr.job, hl]
    have hmem := (known hb).mem_leases hjob
    exact absurd (hr.fresh hi) (fun hnone => ((known hb).status i).mp hnone hmem)

/-- The snapshot, the candidates and the lookups after an event, one condition for each. -/
theorem Lookups.snoc {h : List EventV1} {t : Reduction} {e : EventV1} {phase : Phase}
    (hu : phase = .start ∨ phase = .admitted → t.targetSnapshot = none)
    (h₁ : t.targetSnapshot = (h.findSome? EventV1.snapshot?).or e.snapshot?)
    (h₂ : ∀ c ∈ t.candidateIds, ∃ x, t.candidateEventsById.lookup c = some x)
    (h₃ : ∀ i, t.verificationLeasesById.lookup i =
      (createdLeases h ++ e.createdLease?.toList).find? fun l => l.leaseId = i)
    (h₄ : ∀ i, i ∈ t.resolvedVerificationLeaseIds ↔
      i ∈ resolvedLeases h ++ e.resolvedLease?.toList)
    (h₅ : ∀ i, t.verificationResolutionsByLeaseId.lookup i =
      (retainedResolutions h ++ e.resolution?.toList).find? fun r => r.verificationLeaseId = i)
    (h₆ : ∀ i, i ∈ t.admittedVerifierReceiptIds ↔
      ∃ r ∈ admittedReceipts h ++ e.receipt?.toList, r.receiptId = i) :
    Lookups (h ++ [e]) (t.advance phase e) where
  unopened := hu
  snapshot := by
    rw [findSome?_snoc]
    exact h₁
  candidateEvents := h₂
  leases i := by
    rw [createdLeases_snoc]
    exact h₃ i
  resolved i := by
    rw [resolvedLeases_snoc]
    exact h₄ i
  resolutions i := by
    rw [retainedResolutions_snoc]
    exact h₅ i
  receipts i := by
    rw [admittedReceipts_snoc]
    exact h₆ i

/-- The dicts that an event does not touch are still those of its predecessors. -/
theorem Lookups.kept {h : List EventV1} {s : Reduction} {e : EventV1} {phase : Phase}
    (ih : Lookups h s) (hphase : phase ∈ nextPhase s.phase e.kind) :
    (phase = .start ∨ phase = .admitted → s.targetSnapshot = none) ∧
    (e.snapshot? = none →
      s.targetSnapshot = (h.findSome? EventV1.snapshot?).or e.snapshot?) ∧
    (e.createdLease? = none → ∀ i, s.verificationLeasesById.lookup i =
      (createdLeases h ++ e.createdLease?.toList).find? fun l => l.leaseId = i) ∧
    (e.resolvedLease? = none → ∀ i, i ∈ s.resolvedVerificationLeaseIds ↔
      i ∈ resolvedLeases h ++ e.resolvedLease?.toList) ∧
    (e.resolution? = none → ∀ i, s.verificationResolutionsByLeaseId.lookup i =
      (retainedResolutions h ++ e.resolution?.toList).find? fun r => r.verificationLeaseId = i) ∧
    (e.receipt? = none → ∀ i, i ∈ s.admittedVerifierReceiptIds ↔
      ∃ r ∈ admittedReceipts h ++ e.receipt?.toList, r.receiptId = i) := by
  refine ⟨fun hu => ?_, fun he => ?_, fun he => ?_, fun he => ?_, fun he => ?_, fun he => ?_⟩
  · exact ih.unopened (Or.inl (nextPhase_unopened _ _ _ hphase hu))
  · simpa [he] using ih.snapshot
  · simpa [he] using ih.leases
  · simpa [he] using ih.resolved
  · simpa [he] using ih.resolutions
  · simpa [he] using ih.receipts

/-- The leases after an event that retains a fresh one. -/
theorem Lookups.leases_insert {h : List EventV1} {s : Reduction} {e : EventV1}
    {lease : VerificationLeaseV1} (ih : Lookups h s) (hlease : e.createdLease? = some lease)
    (hfresh : s.verificationLeasesById.lookup lease.leaseId = none) (i : Digest) :
    (s.verificationLeasesById.insert lease.leaseId lease).lookup i =
      (createdLeases h ++ e.createdLease?.toList).find? fun l => l.leaseId = i := by
  rw [hlease]
  exact lookup_insert_eq_find? ih.leases lease hfresh i

theorem reduceLoop_lookups {first : EventV1} {events : List EventV1} {s : Reduction}
    (run : reduceLoop P first events = .ok s) : Lookups events s := by
  refine foldlM_invariant Lookups ?_ ?_ run
  · constructor <;>
      simp [Reduction.initial, createdLeases, resolvedLeases, retainedResolutions, admittedReceipts]
  intro h s e s' hrun ih hstep
  obtain ⟨-, phase, t, hphase, hturn, rfl⟩ := step_turn hstep
  replace hphase := transition_eq_ok hphase
  obtain ⟨b, hb, hr⟩ := reduceLoop_follows hrun
  obtain ⟨hu, hsnapshot, hleases, hresolved, hresolutions, hreceipts⟩ := ih.kept hphase
  -- The projections of an event are those of its payload.
  have proj : ∀ p, e.payload = p →
      e.snapshot? = EventV1.snapshot? { e with payload := p } ∧
      e.createdLease? = EventV1.createdLease? { e with payload := p } ∧
      e.resolvedLease? = EventV1.resolvedLease? { e with payload := p } ∧
      e.resolution? = EventV1.resolution? { e with payload := p } ∧
      e.receipt? = EventV1.receipt? { e with payload := p } := by
    rintro p rfl
    exact ⟨rfl, rfl, rfl, rfl, rfl⟩
  cases hturn with
  | @missionOpened snapshot hp =>
    obtain ⟨hs, hl, hresd, hres, hrec⟩ := proj _ hp
    have hk : e.kind = .missionOpened := by simp only [EventBody.kind, hp, Payload.kind]
    obtain ⟨hadmitted, rfl⟩ := nextPhase_missionOpened _ _ (hk ▸ hphase)
    have hnone : h.findSome? EventV1.snapshot? = none := by
      rw [← ih.snapshot]
      exact ih.unopened (Or.inr hadmitted)
    refine .snoc (by simp) ?_ ih.candidateEvents (hleases hl) (hresolved hresd)
      (hresolutions hres) (hreceipts hrec)
    rw [hnone, hs]
    rfl
  | @candidateRecorded c _ hp =>
    obtain ⟨hs, hl, hresd, hres, hrec⟩ := proj _ hp
    refine Lookups.snoc hu (hsnapshot hs) (fun d hd => ?_) (hleases hl) (hresolved hresd)
      (hresolutions hres) (hreceipts hrec)
    simp only [Dict.lookup_insert]
    split_ifs with heq
    · exact ⟨e, rfl⟩
    · rcases Finset.mem_insert.mp hd with hd | hd
      · exact absurd hd heq
      · exact ih.candidateEvents d hd
  | leaseIssued hp hlease =>
    obtain ⟨hs, hl, hresd, hres, hrec⟩ := proj _ hp
    exact Lookups.snoc hu (hsnapshot hs) ih.candidateEvents
      (ih.leases_insert hl (hr.lookup_fresh hb hlease.hfresh)) (hresolved hresd)
      (hresolutions hres) (hreceipts hrec)
  | leaseReassigned hp _ _ _ _ hlease _ hsuper =>
    obtain ⟨hs, hl, hresd, hres, hrec⟩ := proj _ hp
    have hinsert := ih.leases_insert hl (hr.lookup_fresh hb hlease.hfresh)
    cases hsuper with
    | active hactive htime =>
      exact Lookups.snoc hu (hsnapshot hs) ih.candidateEvents hinsert (hresolved hresd)
        (hresolutions hres) (hreceipts hrec)
    | recovered hactive hdisposed =>
      exact Lookups.snoc hu (hsnapshot hs) ih.candidateEvents hinsert (hresolved hresd)
        (hresolutions hres) (hreceipts hrec)
  | @artifactsResolved r lease hp _ _ _ hfresh =>
    obtain ⟨hs, hl, hresd, hres, hrec⟩ := proj _ hp
    refine Lookups.snoc hu (hsnapshot hs) ih.candidateEvents (hleases hl) (fun i => ?_)
      (fun i => ?_) (hreceipts hrec)
    · rw [hresd, Finset.mem_insert, ih.resolved, List.mem_append, or_comm]
      simp [EventV1.resolvedLease?]
    · have hlookup : s.verificationResolutionsByLeaseId.lookup r.verificationLeaseId = none := by
        rw [ih.resolutions]
        exact resolution_none_of_fresh (mt (ih.resolved _).mpr hfresh)
      rw [hres]
      exact lookup_insert_eq_find? ih.resolutions r hlookup i
  | @receiptAdmitted _ _ _ signed _ _ _ hp =>
    obtain ⟨hs, hl, hresd, hres, hrec⟩ := proj _ hp
    refine Lookups.snoc hu (hsnapshot hs) ih.candidateEvents (hleases hl) (hresolved hresd)
      (hresolutions hres) fun i => ?_
    rw [hrec, Finset.mem_insert, ih.receipts, or_comm]
    simp [EventV1.receipt?, or_and_right, exists_or, eq_comm]
  | stopped hp =>
    rcases hp with hp | hp | hp | hp
    all_goals
      obtain ⟨hs, hl, hresd, hres, hrec⟩ := proj _ hp
      exact Lookups.snoc hu (hsnapshot hs) ih.candidateEvents (hleases hl) (hresolved hresd)
        (hresolutions hres) (hreceipts hrec)
  | _ =>
    obtain ⟨hs, hl, hresd, hres, hrec⟩ := proj _ (by assumption)
    exact Lookups.snoc hu (hsnapshot hs) ih.candidateEvents (hleases hl) (hresolved hresd)
      (hresolutions hres) (hreceipts hrec)

/-! ## Stages -/

/-- What the phase says about the variables after the events `h`. -/
structure Staged (h : List EventV1) (s : Reduction) : Prop where
  summary : s.phase.scanned → ∃ x, s.scanSummary = some x ∧ x.summaryCounts ≠ none
  awaiting : s.phase = .awaitingVerification → createdLeases h ≠ []
  terminal : s.terminal = if s.phase.isTerminal then h.getLast? else none

/-- An event that neither completes the scan nor ends the mission. -/
theorem Staged.keep {h : List EventV1} {s t : Reduction} {e : EventV1} {phase : Phase}
    (ih : Staged h s) (hphase : phase ∈ nextPhase s.phase e.kind) (hk : e.kind ≠ .scanCompleted)
    (hissued : e.kind = .verificationLeaseIssued → e.createdLease? ≠ none)
    (hnot : e.kind ∉ ([.missionAdmissionRefused, .missionClosed, .scanFailed, .scanTimedOut,
      .scanCancelled, .budgetExhausted] : List EventKind))
    (hsummary : t.scanSummary = s.scanSummary) (hterminal : t.terminal = s.terminal) :
    Staged (h ++ [e]) (t.advance phase e) where
  summary hs := by
    rcases nextPhase_scanned _ _ _ hphase hs with hs | hs
    · simpa [Reduction.advance, hsummary] using ih.summary hs
    · exact absurd hs hk
  awaiting hs := by
    rw [createdLeases_snoc]
    rcases nextPhase_awaiting _ _ _ hphase hs with hs | hs
    · simp [ih.awaiting hs]
    · simp [hissued hs]
  terminal := by
    have hbefore := nextPhase_terminal _ _ _ hphase
    have hafter := mt (nextPhase_isTerminal _ _ _ hphase).mp hnot
    simp [Reduction.advance, hterminal, ih.terminal, hbefore, hafter]

/-- An event that ends the mission. -/
theorem Staged.close {h : List EventV1} {s t : Reduction} {e : EventV1} {phase : Phase}
    (hphase : phase ∈ nextPhase s.phase e.kind)
    (hk : e.kind ∈ ([.missionAdmissionRefused, .missionClosed, .scanFailed, .scanTimedOut,
      .scanCancelled, .budgetExhausted] : List EventKind))
    (hterminal : t.terminal = some e) : Staged (h ++ [e]) (t.advance phase e) := by
  have hend : phase.isTerminal := (nextPhase_isTerminal _ _ _ hphase).mpr hk
  refine ⟨fun hs => ?_, fun hs => ?_, ?_⟩
  · exact absurd hend (by rcases hs with hs | hs <;> simp [Reduction.advance] at hs <;> subst hs <;>
      decide)
  · simp only [Reduction.advance] at hs
    subst hs
    exact absurd hend (by decide)
  · simp [Reduction.advance, hterminal, hend]

theorem reduceLoop_staged {first : EventV1} {events : List EventV1} {s : Reduction}
    (run : reduceLoop P first events = .ok s) : Staged events s := by
  refine foldlM_invariant Staged ⟨?_, ?_, rfl⟩ ?_ run
  · simp [Reduction.initial, Phase.scanned]
  · simp [Reduction.initial]
  intro h s e s' _ ih hstep
  obtain ⟨-, phase, t, hphase, hturn, rfl⟩ := step_turn hstep
  replace hphase := transition_eq_ok hphase
  cases hturn with
  | scanCompleted hp =>
    have hk : e.kind = .scanCompleted := by simp only [EventBody.kind, hp, Payload.kind]
    refine ⟨fun _ => ⟨e, rfl, by simp only [EventV1.summaryCounts, hp]; simp⟩, fun hs => ?_, ?_⟩
    · rw [createdLeases_snoc]
      rcases nextPhase_awaiting _ _ _ hphase hs with hs | hs
      · simp [ih.awaiting hs]
      · simp [hk] at hs
    · have hbefore := nextPhase_terminal _ _ _ hphase
      have hafter := mt (nextPhase_isTerminal _ _ _ hphase).mp (by simp [hk])
      simp [Reduction.advance, ih.terminal, hbefore, hafter]
  | missionClosed hp =>
    exact .close hphase (by simp only [EventBody.kind, hp, Payload.kind]; decide) rfl
  | admissionRefused hp =>
    exact .close hphase (by simp only [EventBody.kind, hp, Payload.kind]; decide) rfl
  | stopped hp =>
    refine .close hphase ?_ rfl
    rcases hp with hp | hp | hp | hp <;> simp only [EventBody.kind, hp, Payload.kind] <;> decide
  | leaseReassigned hp _ _ _ _ _ _ hsuper =>
    have hk : e.kind = .verificationLeaseReassigned := by
      simp only [EventBody.kind, hp, Payload.kind]
    cases hsuper with
    | active hactive htime =>
      exact ih.keep hphase (by simp [hk]) (by simp [hk]) (by simp [hk]) rfl rfl
    | recovered hactive hdisposed =>
      exact ih.keep hphase (by simp [hk]) (by simp [hk]) (by simp [hk]) rfl rfl
  | leaseIssued hp =>
    have hk : e.kind = .verificationLeaseIssued := by simp only [EventBody.kind, hp, Payload.kind]
    exact ih.keep hphase (by simp [hk]) (fun _ => by simp [EventV1.createdLease?, hp])
      (by simp [hk]) rfl rfl
  | _ =>
    refine ih.keep hphase ?_ ?_ ?_ rfl rfl <;>
      simp [EventBody.kind, Payload.kind, *]

/-- In the phases from the completed scan on, the retained summary counts the retained
outputs. -/
theorem reduceLoop_summary {first : EventV1} {events : List EventV1} {s : Reduction}
    (run : reduceLoop P first events = .ok s) (hs : s.phase.scanned) :
    ∃ x, s.scanSummary = some x ∧
      x.summaryCounts = some (s.candidates.length, s.failures.length) := by
  obtain ⟨x, hx, hne⟩ := (reduceLoop_staged run).summary hs
  obtain ⟨n, hn⟩ := Option.ne_none_iff_exists'.mp hne
  have hsum := reduceLoop_summarized run
  refine ⟨x, hx, ?_⟩
  rw [hn, hsum.counts x (hsum.retained x hx) n hn]

/-- A mission that awaits verification was admitted for it. -/
theorem verificationIntent_of_awaiting {first : EventV1} {events : List EventV1} {s : Reduction}
    (run : reduceLoop P first events = .ok s) (hs : s.phase = .awaitingVerification) :
    s.verificationIntent := by
  obtain ⟨lease, hl⟩ := List.exists_mem_of_ne_nil _ ((reduceLoop_staged run).awaiting hs)
  obtain ⟨a, g, hag, hmem⟩ := requiresVerification_of_created run hl
  exact ⟨a, by simp [(reduceLoop_authorized run).admission, hag], hmem⟩

end Etzio
