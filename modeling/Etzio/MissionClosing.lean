import Etzio.VerificationCommands

/-!
# No stuck mission

Every accepted stream whose mission has not ended has an accepted extension that ends it
(`no_stuck_mission`). Before verification one failure event does it. From
`awaiting_verification` no failure is legal : every active lease is expired, in any order,
and the mission closes with the status `_verification_closure_status` computes
(`expiries_accepted`, `closure_accepted`).

An event exists only if its integers are protocol integers, so an accepted stream must be
short. `reduceLoop_counted` and `Disposed` bound its length by the admitted candidate ceiling
(`live_bounds`).
-/

open CheckedRun LeaseBook

namespace Etzio

variable {P : Primitives}

/-! ## The wire layer -/

/-- `MAX_CANDIDATES_HARD_CEILING`. -/
def maxCandidatesHardCeiling : ℕ := 100000

/-- A reason text in the plain style of the source's own reason codes. -/
def isReasonCode (text : String) : Bool :=
  text.toList ≠ [] && text.toList.length ≤ 128 &&
    text.toList.all fun c => ('a' ≤ c ∧ c ≤ 'z') || c = '_'

/-- The payloads that hold nothing but reason codes, content ids and counts, within the
protocol's integers. -/
def Payload.flat : Payload → Prop
  | .scanFailed reason => isReasonCode reason
  | .verificationLeaseExpired _ => True
  | .missionClosed candidates failures _ => candidates ≤ maxEpochSecond ∧ failures ≤ maxEpochSecond
  | _ => False

/-- What the constructors of the wire layer do with integers : a flat body is well formed
when its integers are protocol integers, and a well-formed body's times and ceilings are
inside the bounds of their types. -/
structure WireBounds (P : Primitives) : Prop where
  flat : ∀ b, b.payload.flat → b.seq ≤ maxEpochSecond → b.decisionTime ≤ maxEpochSecond →
    P.wellFormed b = true
  decisionTime : ∀ b, P.wellFormed b = true → b.decisionTime ≤ maxEpochSecond
  lease : ∀ e : EventV1, P.wellFormed e.toEventBody = true → ∀ l, e.createdLease? = some l →
    l.expiresAt ≤ maxEpochSecond
  grant : ∀ e : EventV1, P.wellFormed e.toEventBody = true → ∀ a g, e.authority? = some (a, g) →
    g.maxCandidates ≤ maxCandidatesHardCeiling

theorem verify_wellFormed {e : EventV1} (h : e.verify P = .ok ()) :
    P.wellFormed e.toEventBody = true := by
  simp only [EventV1.verify, unit_bind_eq_ok, refuseIf_eq_ok, Bool.not_eq_false] at h
  exact h.1

/-- A flat next event passes its own verification. -/
theorem verify_flat (hP : WireBounds P) {s : Reduction} {t : ℕ} {p : Payload} (hp : p.flat)
    (hseq : s.expectedSeq ≤ maxEpochSecond) (ht : t ≤ maxEpochSecond) :
    (s.nextEvent P t p).verify P = .ok () := by
  have hvalid : validatePayload P (s.nextEvent P t p).toEventBody = .ok () := by
    cases p <;>
      first
      | exact hp.elim
      | simp [validatePayload, Reduction.nextEvent, EventBody.identified, Reduction.nextBody,
          EventBody.kind]
  simp only [EventV1.verify, unit_bind_eq_ok, refuseIf_eq_ok, Bool.not_eq_false, not_not]
  exact ⟨hP.flat _ hp hseq ht, hvalid, rfl⟩

/-! ## The length of a stream -/

/-- The events that the loop retains in one of its lists. -/
def Reduction.retainedCount (s : Reduction) : ℕ :=
  s.candidates.length + s.failures.length + s.verificationLeaseEvents.length +
    s.verificationLeaseExpiryEvents.length + s.verificationLeaseCancellationEvents.length +
    s.verificationArtifactResolutionEvents.length + s.verificationReceiptAdmissionEvents.length

/-- How many unretained events lead to a phase. -/
def Phase.rank : Phase → ℕ
  | .start => 0
  | .admitted => 1
  | .open => 2
  | .analyzing => 3
  | .scanCompleted => 4
  | .awaitingVerification => 4
  | _ => 5

theorem nextPhase_rank (k : EventKind) : ∀ p, ∀ q ∈ nextPhase p k,
    p.rank + (if k ∈ recordedKinds then 0 else 1) ≤ q.rank := by
  cases k <;> decide

theorem Supersession.retainedCount {s t : Reduction} {e : EventV1}
    {predecessor : VerificationLeaseV1} (h : Supersession s e predecessor t) :
    t.retainedCount = s.retainedCount := by
  cases h <;> rfl

theorem Turn.retainedCount {s t : Reduction} {e : EventV1} (h : Turn s e t) :
    t.retainedCount = s.retainedCount + if e.kind ∈ recordedKinds then 1 else 0 := by
  cases h with
  | @leaseReassigned _ _ _ _ _ _ _ _ _ u hp _ _ _ _ _ _ hsuper =>
    have hk : e.kind = .verificationLeaseReassigned := by
      simp only [EventBody.kind, hp, Payload.kind]
    rw [if_pos (by rw [hk]; decide), ← hsuper.retainedCount]
    simp only [Reduction.retainedCount, Reduction.addLease, List.length_append,
      List.length_singleton]
    omega
  | stopped hp =>
    have hk : e.kind ∉ recordedKinds := by
      rcases hp with hp | hp | hp | hp <;> simp only [EventBody.kind, hp, Payload.kind] <;> decide
    rw [if_neg hk]
    rfl
  | _ =>
    simp only [Reduction.retainedCount, Reduction.addLease, List.length_append,
      List.length_singleton, EventBody.kind, Payload.kind, *]
    simp [recordedKinds, verificationKinds] <;> omega

/-- The events of a stream are retained, or they moved the phase on. -/
theorem reduceLoop_counted {first : EventV1} {events : List EventV1} {s : Reduction}
    (run : reduceLoop P first events = .ok s) : s.expectedSeq ≤ s.phase.rank + s.retainedCount := by
  refine foldlM_invariant (fun _ s => s.expectedSeq ≤ s.phase.rank + s.retainedCount)
    (Nat.zero_le _) ?_ run
  intro h s e s' _ ih hstep
  obtain ⟨-, phase, t, hphase, hturn, rfl⟩ := step_turn hstep
  have hrank := nextPhase_rank _ _ _ (transition_eq_ok hphase)
  have hcount := hturn.retainedCount
  have hseq := hturn.identities.2
  change t.expectedSeq + 1 ≤ phase.rank + t.retainedCount
  split_ifs at hrank hcount <;> omega

/-- Each disposition event puts one lease into its set, and each lease event creates one. -/
structure Disposed (s : Reduction) : Prop where
  leases : s.verificationLeaseEvents.length = s.verificationLeaseIds.card
  expiries : s.verificationLeaseExpiryEvents.length = s.expiredVerificationLeaseIds.card
  cancellations :
    s.verificationLeaseCancellationEvents.length = s.cancelledVerificationLeaseIds.card
  receipts : s.verificationReceiptAdmissionEvents.length = s.consumedVerificationLeaseIds.card
  resolutions : s.verificationArtifactResolutionEvents.length = s.resolvedVerificationLeaseIds.card
  resolved : s.resolvedVerificationLeaseIds ⊆ s.verificationLeaseIds

theorem Disposed.supersession {s t : Reduction} {e : EventV1} {predecessor : VerificationLeaseV1}
    (h : Disposed s) (hsuper : Supersession s e predecessor t) : Disposed t := by
  cases hsuper with
  | active hactive htime => exact { h with }
  | recovered hactive hdisposed => exact h

theorem Disposed.addLease {s : Reduction} {lease : VerificationLeaseV1} (h : Disposed s)
    (hfresh : lease.leaseId ∉ s.verificationLeaseIds) (e : EventV1) :
    Disposed (s.addLease e lease) :=
  { h with
    leases := by simp [Reduction.addLease, Finset.card_insert_of_notMem hfresh, h.leases]
    resolved := h.resolved.trans (Finset.subset_insert _ _) }

/-- An active lease is in no other set. -/
theorem Represents.not_disposed {s : Reduction} {b : Book Digest Digest} (hr : Represents s b)
    {i : Digest} (hi : i ∈ s.activeVerificationLeaseIds) (st : Status) (hst : st ≠ .active) :
    i ∉ s.leasesIn st := by
  intro hmem
  have hactive := (hr.status .active i).mp hi
  exact hst (Option.some.inj (((hr.status st i).mp hmem).symm.trans hactive))

theorem reduceLoop_disposed {first : EventV1} {events : List EventV1} {s : Reduction}
    (run : reduceLoop P first events = .ok s) : Disposed s := by
  refine foldlM_invariant (fun _ s => Disposed s) ?_ ?_ run
  · constructor <;> simp [Reduction.initial]
  intro h s e s' hrun ih hstep
  obtain ⟨-, phase, t, -, hturn, rfl⟩ := step_turn hstep
  obtain ⟨b, hb, hr⟩ := reduceLoop_follows hrun
  cases hturn with
  | leaseIssued hp hlease => exact { ih.addLease hlease.hfresh e with }
  | @leaseReassigned _ _ _ _ _ _ _ _ _ u hp _ _ _ _ hlease _ hsuper =>
    have hfresh := hlease.hfresh
    cases hsuper with
    | active hactive htime =>
      exact { (ih.supersession (.active hactive htime)).addLease hfresh e with }
    | recovered hactive hdisposed => exact { ih.addLease hfresh e with }
  | @leaseExpired _ lease hp _ _ hactive =>
    have hnot : lease.leaseId ∉ s.expiredVerificationLeaseIds :=
      hr.not_disposed hactive .expired (by simp)
    exact { ih with
      expiries := by simp [Reduction.advance, Finset.card_insert_of_notMem hnot, ih.expiries] }
  | @leaseCancelled _ _ lease hp _ _ hactive =>
    have hnot : lease.leaseId ∉ s.cancelledVerificationLeaseIds :=
      hr.not_disposed hactive .cancelled (by simp)
    exact { ih with
      cancellations := by
        simp [Reduction.advance, Finset.card_insert_of_notMem hnot, ih.cancellations] }
  | artifactsResolved hp hlease hactive hlatest hfresh =>
    have hmem := (hr.ids _).mpr (by
      rw [(hr.status .active _).mp hactive]
      simp)
    rw [hr.keyed _ _ hlease] at hmem
    exact { ih with
      resolutions := by
        simp [Reduction.advance, Finset.card_insert_of_notMem hfresh, ih.resolutions]
      resolved := Finset.insert_subset hmem ih.resolved }
  | receiptAdmitted hp _ hfresh =>
    exact { ih with
      receipts := by simp [Reduction.advance, Finset.card_insert_of_notMem hfresh, ih.receipts] }
  | _ => exact { ih with }

theorem nextPhase_start (k : EventKind) : ∀ p, ∀ q ∈ nextPhase p k,
    p = .start → k = .authorityAdmitted ∨ q.isTerminal := by
  cases k <;> decide

/-- A mission that has started and not ended has an admitted grant. -/
theorem reduceLoop_granted {first : EventV1} {events : List EventV1} {s : Reduction}
    (run : reduceLoop P first events = .ok s) :
    s.phase = .start ∨ s.phase.isTerminal ∨ ∃ g, s.admittedGrant = some g := by
  refine foldlM_invariant (fun _ s => s.phase = .start ∨ s.phase.isTerminal ∨
    ∃ g, s.admittedGrant = some g) (Or.inl rfl) ?_ run
  intro h s e s' _ ih hstep
  obtain ⟨-, phase, t, hphase, hturn, rfl⟩ := step_turn hstep
  replace hphase := transition_eq_ok hphase
  have hlive := nextPhase_terminal _ _ _ hphase
  -- Every event but the first keeps the grant.
  have hkeep : e.kind ≠ .authorityAdmitted → t.admittedGrant = s.admittedGrant →
      phase.isTerminal ∨ ∃ g, t.admittedGrant = some g := by
    intro hk hgrant
    rcases ih with hstart | hterminal | ⟨g, hg⟩
    · exact Or.inl ((nextPhase_start _ _ _ hphase hstart).resolve_left hk)
    · exact absurd hterminal hlive
    · exact Or.inr ⟨g, hgrant.trans hg⟩
  cases hturn with
  | authorityAdmitted hp => exact Or.inr (Or.inr ⟨_, rfl⟩)
  | leaseReassigned hp _ _ _ _ _ _ hsuper =>
    have hk : e.kind ≠ .authorityAdmitted := by
      simp only [EventBody.kind, hp, Payload.kind]
      decide
    cases hsuper with
    | active hactive htime => exact Or.inr (hkeep hk rfl)
    | recovered hactive hdisposed => exact Or.inr (hkeep hk rfl)
  | stopped hp =>
    have hk : e.kind ≠ .authorityAdmitted := by
      rcases hp with hp | hp | hp | hp <;> simp [EventBody.kind, hp, Payload.kind]
    exact Or.inr (hkeep hk rfl)
  | _ => exact Or.inr (hkeep (by simp [EventBody.kind, Payload.kind, *]) rfl)

/-- The phase has left the start after the first event. -/
theorem phase_ne_start {events : List EventV1} {q : MissionProjection}
    (h : reduceEvents P events = .ok q) : q.final.phase ≠ .start := by
  obtain ⟨first, rest, rfl, -, run⟩ := reduceEvents_eq_ok h
  intro hstart
  exact absurd ((reduceLoop_authorized run).start hstart) (by simp)

/-- The grant of a mission that has not ended, and the ceiling of its candidates. -/
theorem live_grant (hP : WireBounds P) {events : List EventV1} {q : MissionProjection}
    (h : reduceEvents P events = .ok q) (hlive : ¬q.final.phase.isTerminal) :
    ∃ g, q.final.admittedGrant = some g ∧ g.maxCandidates ≤ maxCandidatesHardCeiling := by
  obtain ⟨first, rest, rfl, -, run⟩ := reduceEvents_eq_ok h
  obtain ⟨g, hg⟩ := ((reduceLoop_granted run).resolve_left (phase_ne_start h)).resolve_left hlive
  have hauthority := (reduceLoop_authorized run).grant
  rw [hg] at hauthority
  obtain ⟨⟨a, g'⟩, hag, rfl⟩ := Option.map_eq_some_iff.mp hauthority.symm
  obtain ⟨x, hx, hxa, -⟩ := admittedAuthority_event run hag
  exact ⟨g', hg, hP.grant x (verify_wellFormed (reduceLoop_verify run hx)) a g' hxa⟩

/-- The outputs and the position of a mission that has not ended are protocol integers. -/
theorem live_bounds (hP : WireBounds P) {events : List EventV1} {q : MissionProjection}
    (h : reduceEvents P events = .ok q) (hlive : ¬q.final.phase.isTerminal) :
    q.final.expectedSeq ≤ maxEpochSecond ∧ q.final.candidates.length ≤ maxEpochSecond ∧
      q.final.failures.length ≤ maxEpochSecond := by
  obtain ⟨g, hg, hceiling⟩ := live_grant hP h hlive
  obtain ⟨first, rest, rfl, -, run⟩ := reduceEvents_eq_ok h
  have hauth := reduceLoop_authorized run
  have hd := reduceLoop_disposed run
  obtain ⟨b, -, hr⟩ := reduceLoop_follows run
  have hsum : (q.final.leaseDispositions.map Finset.card).sum =
      q.final.verificationLeaseIds.card := by
    have hcheck := hr.checkDispositions
    simp only [checkDispositions, refuseIf_eq_ok, not_or, not_not] at hcheck
    exact hcheck.2
  simp only [Reduction.leaseDispositions, List.map_cons, List.map_nil, List.sum_cons,
    List.sum_nil] at hsum
  have hresolved := Finset.card_le_card hd.resolved
  have hleases := hauth.leases g hg
  have houtputs : q.final.candidates.length + q.final.failures.length ≤ g.maxCandidates := by
    cases hl : q.final.analysisLease with
    | none => simp [hauth.idle hl]
    | some l =>
      obtain ⟨g', hg', -, hmax⟩ := hauth.window l hl
      obtain rfl := Option.some.inj (hg.symm.trans hg')
      exact (hauth.outputs l hl).trans hmax
  have hcounted := reduceLoop_counted run
  have hrank : q.final.phase.rank ≤ 5 := by cases q.final.phase <;> decide
  have hbig : 5 + 4 * maxCandidatesHardCeiling ≤ maxEpochSecond := by decide
  rw [Reduction.retainedCount, hd.leases, hd.expiries, hd.cancellations, hd.receipts,
    hd.resolutions] at hcounted
  rw [hd.leases] at hleases
  omega

/-- Times retained in an accepted stream are protocol integers. -/
theorem previousTime_le (hP : WireBounds P) {events : List EventV1} {q : MissionProjection}
    (h : reduceEvents P events = .ok q) :
    ∃ t, q.final.previousDecisionTime = some t ∧ t ≤ maxEpochSecond := by
  obtain ⟨first, rest, rfl, -, run⟩ := reduceEvents_eq_ok h
  have hlast := (reduceLoop_positioned run).time
  obtain ⟨x, hx⟩ := Option.ne_none_iff_exists'.mp
    (mt List.getLast?_eq_none_iff.mp (List.cons_ne_nil first rest))
  rw [hx] at hlast
  refine ⟨x.decisionTime, hlast, hP.decisionTime _ (verify_wellFormed ?_)⟩
  exact reduceLoop_verify run (List.mem_of_getLast? hx)

/-! ## Expiry -/

/-- The lease of an active id, which is the latest of its candidate. -/
theorem active_lease {first : EventV1} {events : List EventV1} {s : Reduction} {i : Digest}
    (run : reduceLoop P first events = .ok s) (hi : i ∈ s.activeVerificationLeaseIds) :
    ∃ lease, s.verificationLeasesById.lookup i = some lease ∧ lease.leaseId = i ∧
      s.latestVerificationLeaseByCandidate.lookup lease.candidateId = some i := by
  obtain ⟨b, hb, hr⟩ := reduceLoop_follows run
  obtain ⟨c, hjob, hlatest⟩ := latest_of_active hb ((hr.status .active i).mp hi)
  rw [hr.job] at hjob
  obtain ⟨lease, hlease, rfl⟩ := Option.map_eq_some_iff.mp hjob
  exact ⟨lease, hlease, hr.keyed _ _ hlease, (hr.latest _).trans hlatest⟩

/-- The variables after the expiry of a lease, before `advance`. -/
def Reduction.expireLease (s : Reduction) (e : EventV1) (i : Digest) : Reduction :=
  { s with
    activeVerificationLeaseIds := s.activeVerificationLeaseIds.erase i
    expiredVerificationLeaseIds := insert i s.expiredVerificationLeaseIds
    verificationLeaseExpiryEvents := s.verificationLeaseExpiryEvents ++ [e] }

theorem applyVerificationLeaseExpired_ok {s : Reduction} {e : EventV1}
    {lease : VerificationLeaseV1}
    (hlease : s.verificationLeasesById.lookup lease.leaseId = some lease)
    (hlatest : s.latestVerificationLeaseByCandidate.lookup lease.candidateId =
      some lease.leaseId)
    (hactive : lease.leaseId ∈ s.activeVerificationLeaseIds)
    (htime : lease.expiresAt ≤ e.decisionTime) :
    applyVerificationLeaseExpired s e lease.leaseId = .ok (s.expireLease e lease.leaseId) := by
  simp only [applyVerificationLeaseExpired, hlease, orRefuse_bind_eq_ok, unit_bind_eq_ok,
    refuseIf_eq_ok]
  exact ⟨lease, rfl, by simpa using hlatest, by simpa using hactive, by simpa using htime, rfl⟩

/-- An active lease can be expired at any time from its deadline on. -/
theorem expiry_accepted (hP : WireBounds P) {events : List EventV1} {q : MissionProjection}
    {i : Digest} {t : ℕ} (h : reduceEvents P events = .ok q)
    (hphase : q.final.phase = .awaitingVerification)
    (hi : i ∈ q.final.activeVerificationLeaseIds)
    (hdeadline : ∀ lease, q.final.verificationLeasesById.lookup i = some lease →
      lease.expiresAt ≤ t)
    (htime : ∀ x ∈ q.final.previousDecisionTime, x ≤ t) (ht : t ≤ maxEpochSecond) :
    ∃ r, reduceEvents P (events ++ [q.final.nextEvent P t (.verificationLeaseExpired i)]) = .ok r ∧
      r.final = (q.final.expireLease
        (q.final.nextEvent P t (.verificationLeaseExpired i)) i).advance
          .awaitingVerification (q.final.nextEvent P t (.verificationLeaseExpired i)) := by
  obtain ⟨first, rest, rfl, -, run⟩ := reduceEvents_eq_ok h
  obtain ⟨lease, hlease, rfl, hlatest⟩ := active_lease run hi
  have hlive : ¬q.final.phase.isTerminal := by rw [hphase]; decide
  have hverify := verify_flat hP (s := q.final) (p := .verificationLeaseExpired lease.leaseId)
    trivial (live_bounds hP h hlive).1 ht
  have happly := applyVerificationLeaseExpired_ok
    (e := q.final.nextEvent P t (.verificationLeaseExpired lease.leaseId)) hlease hlatest hi
    (hdeadline lease hlease)
  have hawaiting : nextPhase q.final.phase .verificationLeaseExpired =
      some .awaitingVerification := by
    rw [hphase]
    rfl
  have hstep := step_propose hverify htime hawaiting happly
  obtain ⟨p, hr⟩ := reduceEvents_snoc h hstep
  exact ⟨_, hr, rfl⟩

/-- The expiries of some leases, at their times. -/
def expiries (P : Primitives) (s : Reduction) (plan : List (Digest × ℕ)) : List EventV1 :=
  s.extension P (plan.map fun x => (x.2, .verificationLeaseExpired x.1))

/-- Distinct active leases can be expired in any order, at nondecreasing times from their
deadlines on. -/
theorem expiries_accepted (hP : WireBounds P) {events : List EventV1} {q : MissionProjection}
    {plan : List (Digest × ℕ)} (h : reduceEvents P events = .ok q)
    (hphase : q.final.phase = .awaitingVerification) (hnodup : (plan.map Prod.fst).Nodup)
    (hactive : ∀ i ∈ plan.map Prod.fst, i ∈ q.final.activeVerificationLeaseIds)
    (hdeadline : ∀ x ∈ plan, ∀ lease, q.final.verificationLeasesById.lookup x.1 = some lease →
      lease.expiresAt ≤ x.2)
    (htimes : ∀ p ∈ q.final.previousDecisionTime,
      (p :: plan.map Prod.snd).Pairwise (· ≤ ·))
    (hmax : ∀ x ∈ plan, x.2 ≤ maxEpochSecond) :
    ∃ r, reduceEvents P (events ++ expiries P q.final plan) = .ok r ∧
      r.final.phase = .awaitingVerification ∧
      (∀ i, i ∈ r.final.activeVerificationLeaseIds ↔
        i ∈ q.final.activeVerificationLeaseIds ∧ i ∉ plan.map Prod.fst) ∧
      r.final.previousDecisionTime =
        (plan.map Prod.snd).getLast?.or q.final.previousDecisionTime := by
  induction plan generalizing events q with
  | nil => exact ⟨q, by simpa [expiries, Reduction.extension] using h, hphase, by simp, by simp⟩
  | cons x plan ih =>
    obtain ⟨i, t⟩ := x
    simp only [List.map_cons, List.nodup_cons, List.forall_mem_cons]
      at hnodup hactive hdeadline hmax
    have htime : ∀ p ∈ q.final.previousDecisionTime, p ≤ t := fun p hp =>
      (List.pairwise_cons.mp (htimes p hp)).1 t (by simp)
    obtain ⟨r, hr, hfinal⟩ := expiry_accepted hP h hphase hactive.1 hdeadline.1 htime hmax.1
    obtain ⟨p, hp, -⟩ := previousTime_le hP h
    have hsorted := (List.pairwise_cons.mp (htimes p hp)).2
    have hstill : ∀ j ∈ plan.map Prod.fst, j ∈ r.final.activeVerificationLeaseIds := by
      intro j hj
      rw [hfinal]
      refine Finset.mem_erase.mpr ⟨?_, hactive.2 j hj⟩
      rintro rfl
      exact hnodup.1 hj
    obtain ⟨r', hr', hphase', hactive', hprev'⟩ := ih hr (by rw [hfinal]; rfl) hnodup.2 hstill
      (by rw [hfinal]; exact hdeadline.2)
      (by
        rw [hfinal]
        rintro p' hp'
        obtain rfl : t = p' := Option.some.inj hp'
        simpa using hsorted)
      hmax.2
    have hext : expiries P q.final ((i, t) :: plan) =
        q.final.nextEvent P t (.verificationLeaseExpired i) :: expiries P r.final plan := by
      rw [hfinal]
      refine congrArg (List.cons _) ?_
      refine extension_congr ?_ ?_ ?_ ?_ ?_ _ <;> rfl
    refine ⟨r', by simpa [hext] using hr', hphase', fun j => ?_, ?_⟩
    · rw [hactive', hfinal]
      simp [Reduction.advance, Reduction.expireLease, Finset.mem_erase, not_or]
      tauto
    · rw [hprev', hfinal]
      cases plan with
      | nil => simp [Reduction.advance]
      | cons y plan => simp [List.getLast?_cons]

/-! ## Closure -/

theorem candidateIdsOf_eq {first : EventV1} {events : List EventV1} {q : MissionProjection}
    (run : reduceLoop P first events = .ok q.final) : candidateIdsOf q = q.final.candidateIds := by
  have hrec := reduceLoop_records run
  ext c
  rw [hrec.candidateIds, candidateIdsOf, List.mem_toFinset, hrec.candidates, List.mem_filterMap]
  constructor
  · rintro ⟨e, he, hc⟩
    obtain ⟨k, hk, rfl⟩ := Option.map_eq_some_iff.mp hc
    exact ⟨e, (List.mem_filter.mp he).1, k, hk, rfl⟩
  · rintro ⟨e, he, k, hk, rfl⟩
    refine ⟨e, List.mem_filter.mpr ⟨he, ?_⟩, by simp [hk]⟩
    by_contra hne
    simp only [List.mem_singleton, decide_eq_true_eq] at hne
    simp [candidate?_eq_none hne] at hk

/-- The partitions of an accepted stream's projection. -/
theorem reduceEvents_partitions {events : List EventV1} {q : MissionProjection}
    (h : reduceEvents P events = .ok q) : q.final.partitions = .ok q.partitions := by
  cases events with
  | nil => simp [reduceEvents] at h
  | cons first rest =>
    simp only [reduceEvents] at h
    obtain ⟨s, hs, h⟩ := bind_eq_ok.mp h
    obtain ⟨-, h⟩ := unit_bind_eq_ok.mp h
    obtain ⟨p, hp, h⟩ := bind_eq_ok.mp h
    obtain rfl : _ = q := by simpa [pure, Except.pure] using h
    exact hp

/-- Without an active lease no candidate is of the active class. -/
theorem candidateClass_ne_active {s : Reduction} {b : Book Digest Digest} (hr : Represents s b)
    (hactive : s.activeVerificationLeaseIds = ∅) (c : Digest) :
    candidateClass b c ≠ some .active := by
  intro hclass
  unfold candidateClass at hclass
  split at hclass
  · simp at hclass
  · rename_i i _
    have hst : b.status i = some .active := by
      cases hst : b.status i with
      | none => simp [hst] at hclass
      | some st => cases st <;> simp_all [classOf]
    have hmem := (hr.status .active i).mpr hst
    simp [Reduction.leasesIn, hactive] at hmem

/-- Without an active lease the closure status exists. -/
theorem verificationClosureStatus_ok {events : List EventV1} {q : MissionProjection}
    (h : reduceEvents P events = .ok q) (hactive : q.final.activeVerificationLeaseIds = ∅) :
    ∃ status, verificationClosureStatus q = .ok status := by
  obtain ⟨first, rest, rfl, -, run⟩ := reduceEvents_eq_ok h
  obtain ⟨b, p, hb, hr, hp, hpart⟩ := reduceLoop_partitions run
  obtain rfl : q.partitions = p := Except.ok.inj ((reduceEvents_partitions h).symm.trans hp)
  have hunion : q.partitions.receiptCovered ∪ q.partitions.neverAssigned ∪
      q.partitions.latestExpired ∪ q.partitions.latestCancelled = candidateIdsOf q := by
    rw [candidateIdsOf_eq run]
    ext c
    have hcover := hpart .receiptCovered c
    have hnever := hpart .neverAssigned c
    have hexpired := hpart .latestExpired c
    have hcancelled := hpart .latestCancelled c
    simp only [CandidatePartitions.part] at hcover hnever hexpired hcancelled
    simp only [Finset.mem_union, hcover, hnever, hexpired, hcancelled]
    refine ⟨by tauto, fun hc => ?_⟩
    obtain ⟨k, hk⟩ := exists_candidateClass hb c
    cases k with
    | active => exact absurd hk (candidateClass_ne_active hr hactive c)
    | _ => simp [hc, hk]
  simp only [verificationClosureStatus, unit_bind_eq_ok, refuseIf_eq_ok, not_not]
  exact ⟨_, hactive, hunion, rfl⟩

/-- The reducer accepts the closure status of a verification mission. -/
theorem checkClosedStatus_of_status {events : List EventV1} {q : MissionProjection}
    {status : ClosedStatus} (h : reduceEvents P events = .ok q)
    (hintent : q.final.verificationIntent) (hstatus : verificationClosureStatus q = .ok status) :
    checkClosedStatus q.final status = .ok () := by
  obtain ⟨first, rest, rfl, -, run⟩ := reduceEvents_eq_ok h
  obtain ⟨b, p, hb, hr, hp, hpart⟩ := reduceLoop_partitions run
  obtain rfl : q.partitions = p := Except.ok.inj ((reduceEvents_partitions h).symm.trans hp)
  simp only [verificationClosureStatus, unit_bind_eq_ok, refuseIf_eq_ok, not_not] at hstatus
  obtain ⟨hactive, -, hexpected⟩ := hstatus
  replace hexpected := Except.ok.inj hexpected
  rw [candidateIdsOf_eq run] at hexpected
  have hnone : q.partitions.active = ∅ := by
    rw [Finset.eq_empty_iff_forall_notMem]
    intro c hc
    exact candidateClass_ne_active hr hactive c ((hpart .active c).mp hc).2
  rw [checkClosedStatus, if_pos hintent]
  refine bind_eq_ok.mpr ⟨_, hp, ?_⟩
  simp only [unit_bind_eq_ok, refuseIf_eq_ok, not_or, not_not]
  exact ⟨⟨hactive, hnone⟩, fun hne => hne.1 hexpected.symm⟩

theorem applyMissionClosed_ok {first e : EventV1} {events : List EventV1} {s : Reduction}
    {status : ClosedStatus} (run : reduceLoop P first events = .ok s) (hs : s.phase.scanned)
    (hstatus : checkClosedStatus s status = .ok ()) :
    applyMissionClosed s e s.candidates.length s.failures.length status =
      .ok { s with terminal := some e } := by
  obtain ⟨x, hx, hcounts⟩ := reduceLoop_summary run hs
  simp only [applyMissionClosed, unit_bind_eq_ok, refuseIf_eq_ok, orRefuse_bind_eq_ok, not_not]
  exact ⟨hstatus, trivial, trivial, x, hx, hcounts, rfl⟩

/-- A mission that awaits verification without an active lease can be closed with the
computed status. -/
theorem closure_accepted (hP : WireBounds P) {events : List EventV1} {q : MissionProjection}
    {t : ℕ} (h : reduceEvents P events = .ok q) (hphase : q.final.phase = .awaitingVerification)
    (hactive : q.final.activeVerificationLeaseIds = ∅)
    (htime : ∀ x ∈ q.final.previousDecisionTime, x ≤ t) (ht : t ≤ maxEpochSecond) :
    ∃ status r, verificationClosureStatus q = .ok status ∧
      reduceEvents P (events ++ [q.final.nextEvent P t
        (.missionClosed q.final.candidates.length q.final.failures.length status)]) = .ok r ∧
      r.final.phase = .closed := by
  obtain ⟨status, hstatus⟩ := verificationClosureStatus_ok h hactive
  have hlive : ¬q.final.phase.isTerminal := by rw [hphase]; decide
  obtain ⟨hseq, hcandidates, hfailures⟩ := live_bounds hP h hlive
  have hverify := verify_flat hP (s := q.final) (t := t)
    (p := .missionClosed q.final.candidates.length q.final.failures.length status)
    ⟨hcandidates, hfailures⟩ hseq ht
  obtain ⟨first, rest, rfl, -, run⟩ := reduceEvents_eq_ok h
  have hcheck := checkClosedStatus_of_status h (verificationIntent_of_awaiting run hphase) hstatus
  have hclose : nextPhase q.final.phase .missionClosed = some .closed := by
    rw [hphase]
    rfl
  have hstep := step_propose hverify htime hclose
    (applyMissionClosed_ok run (Or.inr hphase) hcheck)
  obtain ⟨p, hr⟩ := reduceEvents_snoc h hstep
  exact ⟨status, _, hstatus, hr, rfl⟩

/-! ## No stuck mission -/

/-- From the phases before verification one failure event ends the mission. -/
theorem failure_accepted (hP : WireBounds P) {events : List EventV1} {q : MissionProjection}
    {reason : String} {t : ℕ} (h : reduceEvents P events = .ok q)
    (hphase : nextPhase q.final.phase .scanFailed = some .failed)
    (hreason : isReasonCode reason = true)
    (htime : ∀ x ∈ q.final.previousDecisionTime, x ≤ t) (ht : t ≤ maxEpochSecond) :
    ∃ r, reduceEvents P (events ++ [q.final.nextEvent P t (.scanFailed reason)]) = .ok r ∧
      r.final.phase = .failed := by
  have hlive : ¬q.final.phase.isTerminal := nextPhase_terminal _ _ _ hphase
  have hverify := verify_flat hP (s := q.final) (p := .scanFailed reason) hreason
    (live_bounds hP h hlive).1 ht
  have hstep := step_propose hverify htime hphase rfl
  obtain ⟨p, hr⟩ := reduceEvents_snoc h hstep
  exact ⟨_, hr, rfl⟩

theorem nextPhase_scanFailed : ∀ p : Phase, ¬p.isTerminal →
    p = .start ∨ p = .awaitingVerification ∨ nextPhase p .scanFailed = some .failed := by
  decide

theorem scanFailed_isReasonCode : isReasonCode "scan_failed" = true := by decide

/-- A time from which every retained lease is past its deadline. -/
theorem exists_late_time (hP : WireBounds P) {events : List EventV1} {q : MissionProjection}
    (h : reduceEvents P events = .ok q) :
    ∃ t ≤ maxEpochSecond, (∀ x ∈ q.final.previousDecisionTime, x ≤ t) ∧
      ∀ i lease, q.final.verificationLeasesById.lookup i = some lease → lease.expiresAt ≤ t := by
  refine ⟨maxEpochSecond, le_rfl, fun x hx => ?_, fun i lease hl => ?_⟩
  · obtain ⟨t, ht, hle⟩ := previousTime_le hP h
    obtain rfl : t = x := Option.some.inj (ht.symm.trans hx)
    exact hle
  · obtain ⟨first, rest, rfl, -, run⟩ := reduceEvents_eq_ok h
    rw [(reduceLoop_lookups run).leases] at hl
    obtain ⟨e, he, hcreated⟩ := List.mem_filterMap.mp (List.mem_of_find?_eq_some hl)
    exact hP.lease e (verify_wellFormed (reduceLoop_verify run he)) lease hcreated

/-- From `awaiting_verification` the active leases can all be expired, in any order, and then
the mission can be closed. -/
theorem expiries_closure_accepted (hP : WireBounds P) {events : List EventV1}
    {q : MissionProjection} {plan : List (Digest × ℕ)} {t : ℕ}
    (h : reduceEvents P events = .ok q) (hphase : q.final.phase = .awaitingVerification)
    (hnodup : (plan.map Prod.fst).Nodup)
    (hids : ∀ i, i ∈ plan.map Prod.fst ↔ i ∈ q.final.activeVerificationLeaseIds)
    (hdeadline : ∀ x ∈ plan, ∀ lease, q.final.verificationLeasesById.lookup x.1 = some lease →
      lease.expiresAt ≤ x.2)
    (htimes : ∀ p ∈ q.final.previousDecisionTime,
      (p :: (plan.map Prod.snd ++ [t])).Pairwise (· ≤ ·))
    (ht : t ≤ maxEpochSecond) :
    ∃ expired status r, reduceEvents P (events ++ expiries P q.final plan) = .ok expired ∧
      verificationClosureStatus expired = .ok status ∧
      reduceEvents P (events ++ expiries P q.final plan ++ [expired.final.nextEvent P t
        (.missionClosed expired.final.candidates.length expired.final.failures.length
          status)]) = .ok r ∧
      r.final.phase = .closed := by
  obtain ⟨p, hp, -⟩ := previousTime_le hP h
  have hsorted := htimes p hp
  have hlast : ∀ x ∈ p :: plan.map Prod.snd, x ≤ t := fun x hx =>
    (List.pairwise_append.mp (by simpa using hsorted : (p :: plan.map Prod.snd ++ [t]).Pairwise
      (· ≤ ·))).2.2 x hx t (by simp)
  obtain ⟨expired, hexpired, hphase', hactive, hprev⟩ := expiries_accepted hP h hphase hnodup
    (fun i hi => (hids i).mp hi) hdeadline
    (fun p' hp' => by
      obtain rfl : p = p' := Option.some.inj (hp.symm.trans hp')
      exact hsorted.sublist (by simp))
    (fun x hx => (hlast x.2 (List.mem_cons_of_mem _ (List.mem_map_of_mem hx))).trans ht)
  have hempty : expired.final.activeVerificationLeaseIds = ∅ := by
    rw [Finset.eq_empty_iff_forall_notMem]
    intro i hi
    exact ((hactive i).mp hi).2 ((hids i).mpr ((hactive i).mp hi).1)
  have htime : ∀ x ∈ expired.final.previousDecisionTime, x ≤ t := by
    rw [hprev, hp]
    intro x hx
    refine hlast x ?_
    cases hl : (plan.map Prod.snd).getLast? with
    | none => simp_all
    | some y =>
      obtain rfl : y = x := by simpa [hl] using hx
      exact List.mem_cons_of_mem _ (List.mem_of_getLast? hl)
  obtain ⟨status, r, hstatus, hr, hclosed⟩ := closure_accepted hP hexpired hphase' hempty htime ht
  exact ⟨expired, status, r, hexpired, hstatus, hr, hclosed⟩

/-- The projection of a stream whose last event ended the mission names that event. -/
theorem terminal_of_snoc {events : List EventV1} {e : EventV1} {r : MissionProjection}
    (h : reduceEvents P (events ++ [e]) = .ok r) (hterminal : r.final.phase.isTerminal) :
    r.final.terminal = some e := by
  obtain ⟨first, rest, heq, -, run⟩ := reduceEvents_eq_ok h
  rw [(reduceLoop_staged run).terminal, if_pos hterminal]
  simp

/-- The active leases with one time. -/
theorem exists_expiry_plan (s : Reduction) (t : ℕ) :
    ∃ plan : List (Digest × ℕ), (plan.map Prod.fst).Nodup ∧
      (∀ i, i ∈ plan.map Prod.fst ↔ i ∈ s.activeVerificationLeaseIds) ∧
      plan.map Prod.snd = List.replicate plan.length t := by
  refine ⟨s.activeVerificationLeaseIds.toList.map fun i => (i, t), ?_, by simp, ?_⟩
  · simpa [Function.comp_def] using Finset.nodup_toList _
  · simp [Function.comp_def, List.map_const']

/-- Every accepted stream of a mission that has not ended can be extended to one that has.
From `awaiting_verification` every active lease can be expired, in any order and at any
nondecreasing times from the deadlines on, and then the mission closes with the status
`_verification_closure_status` computes. -/
theorem no_stuck_mission (P : Primitives) (hP : WireBounds P) :
    (∀ events q, reduceEvents P events = .ok q → ¬q.final.phase.isTerminal →
      ∃ more e r, reduceEvents P (events ++ more ++ [e]) = .ok r ∧ r.final.phase.isTerminal ∧
        r.final.terminal = some e) ∧
    ∀ events q (plan : List (Digest × ℕ)) (t : ℕ), reduceEvents P events = .ok q →
      q.final.phase = .awaitingVerification → (plan.map Prod.fst).Nodup →
      (∀ i, i ∈ plan.map Prod.fst ↔ i ∈ q.final.activeVerificationLeaseIds) →
      (∀ x ∈ plan, ∀ lease, q.final.verificationLeasesById.lookup x.1 = some lease →
        lease.expiresAt ≤ x.2) →
      (∀ p ∈ q.final.previousDecisionTime, (p :: (plan.map Prod.snd ++ [t])).Pairwise (· ≤ ·)) →
      t ≤ maxEpochSecond →
      ∃ expired status r, reduceEvents P (events ++ expiries P q.final plan) = .ok expired ∧
        verificationClosureStatus expired = .ok status ∧
        reduceEvents P (events ++ expiries P q.final plan ++ [expired.final.nextEvent P t
          (.missionClosed expired.final.candidates.length expired.final.failures.length
            status)]) = .ok r ∧
        r.final.phase = .closed := by
  refine ⟨fun events q h hlive => ?_, fun events q plan t h hphase hnodup hids hdeadline htimes
    ht => expiries_closure_accepted hP h hphase hnodup hids hdeadline htimes ht⟩
  obtain ⟨t, ht, htime, hdeadline⟩ := exists_late_time hP h
  rcases nextPhase_scanFailed _ hlive with hstart | hawaiting | hphase
  · exact absurd hstart (phase_ne_start h)
  · obtain ⟨plan, hnodup, hids, hsame⟩ := exists_expiry_plan q.final t
    have hplan : ∀ x ∈ plan, x.2 = t := fun x hx =>
      List.eq_of_mem_replicate (hsame ▸ List.mem_map_of_mem hx)
    obtain ⟨expired, status, r, -, -, hr, hclosed⟩ := expiries_closure_accepted hP h hawaiting
      hnodup hids (fun x hx lease hlease => hplan x hx ▸ hdeadline _ lease hlease)
      (fun p hp => by
        rw [hsame, ← List.replicate_succ', List.pairwise_cons]
        refine ⟨fun x hx => ?_, List.pairwise_replicate.mpr (Or.inr le_rfl)⟩
        exact (List.eq_of_mem_replicate hx) ▸ htime p hp)
      ht
    have hterminal : r.final.phase.isTerminal := by rw [hclosed]; decide
    exact ⟨_, _, r, hr, hterminal, terminal_of_snoc hr hterminal⟩
  · obtain ⟨r, hr, hfailed⟩ := failure_accepted hP h hphase scanFailed_isReasonCode
      htime ht
    have hterminal : r.final.phase.isTerminal := by rw [hfailed]; decide
    exact ⟨[], _, r, by simpa using hr, hterminal, terminal_of_snoc hr hterminal⟩

/-- Primitives whose constructors refuse integers outside the protocol's. -/
def boundedPrimitives : Primitives :=
  { samplePrimitives with
    wellFormed := fun b => b.seq ≤ maxEpochSecond && b.decisionTime ≤ maxEpochSecond &&
      match b.payload with
      | .verificationLeaseIssued l _ _ => l.expiresAt ≤ maxEpochSecond
      | .verificationLeaseReassigned l _ _ _ _ => l.expiresAt ≤ maxEpochSecond
      | .authorityAdmitted _ g _ _ => g.maxCandidates ≤ maxCandidatesHardCeiling
      | _ => true }

theorem boundedPrimitives_bounds : WireBounds boundedPrimitives where
  flat b hb hseq htime := by
    obtain ⟨m, seq, u, a, target, time, p, prev⟩ := b
    cases p <;> simp_all [boundedPrimitives, Payload.flat]
  decisionTime b hb := by
    simp only [boundedPrimitives, Bool.and_eq_true, decide_eq_true_eq] at hb
    exact hb.1.2
  lease e he l hl := by
    simp only [boundedPrimitives, Bool.and_eq_true] at he
    unfold EventV1.createdLease? at hl
    split at hl <;> simp_all
  grant e he a g hag := by
    simp only [boundedPrimitives, Bool.and_eq_true] at he
    unfold EventV1.authority? at hag
    split at hag <;> simp_all

/-- The first events of the sample mission, up to its reassigned lease. -/
theorem sampleReassigned_accepted :
    ∃ q, reduceEvents boundedPrimitives (sampleMission.take 7) = .ok q ∧
      q.final.phase = .awaitingVerification ∧ q.final.activeVerificationLeaseIds = {402} ∧
      q.final.previousDecisionTime = some 30 ∧
      (q.final.verificationLeasesById.lookup 402).map VerificationLeaseV1.expiresAt = some 90 := by
  have h : ((reduceEvents boundedPrimitives (sampleMission.take 7)).toOption.map fun q =>
      (q.final.phase, q.final.activeVerificationLeaseIds, q.final.previousDecisionTime,
        (q.final.verificationLeasesById.lookup 402).map VerificationLeaseV1.expiresAt)) =
      some (.awaitingVerification, {402}, some 30, some 90) := by decide +kernel
  cases hq : reduceEvents boundedPrimitives (sampleMission.take 7) with
  | error m => simp [hq, Except.toOption] at h
  | ok q =>
    simp only [hq, Except.toOption, Option.map_some, Option.some.injEq, Prod.mk.injEq] at h
    exact ⟨q, rfl, h⟩

/-- A mission whose verification was reassigned ends, and closes by way of the expired lease. -/
theorem no_stuck_mission_sample :
    (∃ more e r, reduceEvents boundedPrimitives (sampleMission.take 7 ++ more ++ [e]) = .ok r ∧
      r.final.phase.isTerminal ∧ r.final.terminal = some e) ∧
    ∃ q expired status r, reduceEvents boundedPrimitives (sampleMission.take 7) = .ok q ∧
      reduceEvents boundedPrimitives
        (sampleMission.take 7 ++ expiries boundedPrimitives q.final [(402, 90)]) = .ok expired ∧
      reduceEvents boundedPrimitives (sampleMission.take 7 ++
        expiries boundedPrimitives q.final [(402, 90)] ++
        [expired.final.nextEvent boundedPrimitives 95 (.missionClosed
          expired.final.candidates.length expired.final.failures.length status)]) = .ok r ∧
      r.final.phase = .closed := by
  obtain ⟨q, hq, hphase, hactive, htime, hexpires⟩ := sampleReassigned_accepted
  have hlive : ¬q.final.phase.isTerminal := by rw [hphase]; decide
  obtain ⟨hend, hclose⟩ := no_stuck_mission boundedPrimitives boundedPrimitives_bounds
  refine ⟨hend _ q hq hlive, ?_⟩
  obtain ⟨expired, status, r, hexpired, -, hr, hclosed⟩ := hclose _ q [(402, 90)] 95 hq hphase
    (by simp) (by simp [hactive])
    (fun x hx lease hlease => by
      obtain rfl : x = (402, 90) := by simpa using hx
      rw [hlease] at hexpires
      exact (Option.some.inj hexpires).le)
    (fun p hp => by
      obtain rfl : 30 = p := Option.some.inj (htime.symm.trans hp)
      decide)
    (by decide)
  exact ⟨q, expired, status, r, hq, hexpired, hr, hclosed⟩

end Etzio
