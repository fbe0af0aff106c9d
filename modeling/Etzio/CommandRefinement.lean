import Etzio.MissionClosing
import Etzio.VerificationCommands

/-!
# Commands refine the reducer

A command checks over the projection what the reducer checks again over the extended stream.
`Drafted` is what every draft has in common : an event that follows the retained stream at a
time that does not go back, of a legal kind, whose branch accepts it. `Drafted.accepted` extends
the stream by it. The drafts differ in the branch : each command has a lemma that its own checks
are enough for it.

The ids and nonces of leases and the ids of events are hashes. Where the reducer compares them,
the retained ones and the drafted one must not collide (`CollisionFree`).
-/

open CheckedRun Interaction LeaseBook

namespace Etzio

variable {P : Primitives} {W : CommandEnv}

/-! ## Drafted events -/

/-- A created event is the next event of the retained stream. -/
theorem createEvent_eq_ok {retained : List EventV1} {q : MissionProjection} {t : ℕ}
    {payload : Payload} {e : EventV1} (h : reduceEvents P retained = .ok q)
    (he : createEvent P retained q t payload = .ok e) :
    e = q.final.nextEvent P t payload ∧ e.verify P = .ok () := by
  obtain ⟨first, rest, rfl, -, run⟩ := reduceEvents_eq_ok h
  have hpos := reduceLoop_positioned run
  obtain ⟨he, hverify⟩ := create_eq_ok (mapError_eq_ok.mp he)
  refine ⟨?_, hverify⟩
  rw [he, Reduction.nextEvent, Reduction.nextBody, hpos.seq, hpos.prev]

/-- The time of a command that passed `assertHead` does not go back. -/
theorem assertHead_time {retained : List EventV1} {q : MissionProjection} {head : Digest} {t : ℕ}
    {what : String} (h : reduceEvents P retained = .ok q)
    (hhead : assertHead retained head t what = .ok ()) :
    ∀ x ∈ q.final.previousDecisionTime, x ≤ t := by
  obtain ⟨first, rest, rfl, -, run⟩ := reduceEvents_eq_ok h
  rw [(reduceLoop_positioned run).time]
  simp only [assertHead, unit_bind_eq_ok, refuseIf_eq_ok, not_exists, not_and, not_lt] at hhead
  intro x hx
  obtain ⟨e, he, rfl⟩ := Option.map_eq_some_iff.mp (Option.mem_def.mp hx)
  exact hhead.2 e he

variable (P) in
/-- The event of a draft : the next one of the stream, with what is left of the reducer's checks
of it. -/
structure Drafted (q : MissionProjection) (e : EventV1) : Prop where
  verified : e.verify P = .ok ()
  next : ∃ t payload, e = q.final.nextEvent P t payload ∧
    (∀ x ∈ q.final.previousDecisionTime, x ≤ t) ∧ nextPhase q.final.phase payload.kind ≠ none
  applied : ∃ s, applyPayload P q.final e = .ok s

theorem Drafted.accepted {retained : List EventV1} {q : MissionProjection} {e : EventV1}
    (hd : Drafted P q e) (h : reduceEvents P retained = .ok q) :
    ∃ q', reduceEvents P (retained ++ [e]) = .ok q' := by
  obtain ⟨t, payload, rfl, htime, hphase⟩ := hd.next
  obtain ⟨phase, hphase⟩ := Option.ne_none_iff_exists'.mp hphase
  obtain ⟨s, hs⟩ := hd.applied
  obtain ⟨p, hp⟩ := reduceEvents_snoc h (step_propose hd.verified htime hphase hs)
  exact ⟨_, hp⟩

theorem Drafted.of_created {retained : List EventV1} {q : MissionProjection} {t : ℕ}
    {payload : Payload} {e : EventV1} {head : Digest} {what : String}
    (h : reduceEvents P retained = .ok q) (he : createEvent P retained q t payload = .ok e)
    (hhead : assertHead retained head t what = .ok ())
    (hphase : nextPhase q.final.phase payload.kind ≠ none)
    (happly : ∃ s, applyPayload P q.final e = .ok s) : Drafted P q e := by
  obtain ⟨hnext, hverify⟩ := createEvent_eq_ok h he
  exact ⟨hverify, ⟨t, payload, hnext, assertHead_time h hhead, hphase⟩, happly⟩

/-! ## Reading the projection -/

/-- The retained authority is the reducer's. -/
theorem authorityEvidence_eq_ok {retained : List EventV1} {q : MissionProjection} {what : String}
    {grant : AuthorityGrantV1} {admission : AuthorityAdmissionV1}
    (h : reduceEvents P retained = .ok q)
    (ha : authorityEvidence q what = .ok (grant, admission)) :
    q.final.admittedGrant = some grant ∧ q.final.admittedAdmission = some admission ∧
      ∀ x ∈ q.final.previousDecisionTime, admission.decisionTime ≤ x := by
  obtain ⟨first, rest, rfl, hevents, run⟩ := reduceEvents_eq_ok h
  have hauth := reduceLoop_authorized run
  rw [authorityEvidence, hevents] at ha
  cases hfirst : first.authority? with
  | none => simp [hfirst, reject] at ha
  | some x =>
    obtain ⟨a, g⟩ := x
    have hag : (grant, admission) = (g, a) := by simpa [hfirst, eq_comm] using ha
    obtain ⟨rfl, rfl⟩ := Prod.mk.inj hag
    have hadmitted : admittedAuthority (first :: rest) = some (admission, grant) := by
      simp [admittedAuthority, hfirst]
    obtain ⟨x, hx, -, htime⟩ := admittedAuthority_event run hadmitted
    obtain ⟨t, ht, hle⟩ := (reduceLoop_times run).2 x hx
    refine ⟨by rw [hauth.grant, hadmitted]; rfl, by rw [hauth.admission, hadmitted]; rfl, ?_⟩
    intro y hy
    obtain rfl : t = y := Option.some.inj (ht.symm.trans hy)
    exact htime ▸ hle

theorem recoveryAuthority_eq_ok {retained : List EventV1} {q : MissionProjection}
    {grant : AuthorityGrantV1} {admission : AuthorityAdmissionV1}
    (h : reduceEvents P retained = .ok q)
    (ha : recoveryAuthority q = .ok (grant, admission)) :
    (q.final.admittedGrant = some grant ∧ q.final.admittedAdmission = some admission ∧
      ∀ x ∈ q.final.previousDecisionTime, admission.decisionTime ≤ x) ∧
      ¬lacksVerificationAuthority admission grant := by
  obtain ⟨x, hx, hrest⟩ := bind_eq_ok.mp ha
  obtain ⟨hlacks, hreturn⟩ := unit_bind_eq_ok.mp hrest
  obtain rfl := Except.ok.inj hreturn
  exact ⟨authorityEvidence_eq_ok h hx, refuseIf_eq_ok.mp hlacks⟩

theorem createdLeases_ofKinds (h : List EventV1) :
    createdLeases (ofKinds [.verificationLeaseIssued, .verificationLeaseReassigned] h) =
      createdLeases h := by
  induction h with
  | nil => rfl
  | cons e h ih =>
    simp only [createdLeases, ofKinds] at ih ⊢
    by_cases hk : e.kind ∈ ([.verificationLeaseIssued, .verificationLeaseReassigned] :
        List EventKind)
    · rw [List.filter_cons_of_pos (by simpa using hk), List.filterMap_cons, List.filterMap_cons, ih]
    · have hnone : e.createdLease? = none := by
        unfold EventV1.createdLease?
        split <;> simp_all [EventBody.kind, Payload.kind]
      rw [List.filter_cons_of_neg (by simpa using hk), List.filterMap_cons, hnone, ih]

/-- The lease that a command finds is the one the reducer looks up. -/
theorem leaseById_eq_ok {retained : List EventV1} {q : MissionProjection} {id : Digest}
    {lease : VerificationLeaseV1} (h : reduceEvents P retained = .ok q)
    (hl : leaseById q id = .ok lease) :
    q.final.verificationLeasesById.lookup id = some lease ∧ lease.leaseId = id ∧
      lease ∈ createdLeases retained := by
  obtain ⟨first, rest, rfl, -, run⟩ := reduceEvents_eq_ok h
  have hfind := orRefuse_eq_ok.mp hl
  rw [(reduceLoop_records run).leases] at hfind
  have hcreated := createdLeases_ofKinds (first :: rest)
  rw [createdLeases] at hcreated
  rw [hcreated, ← (reduceLoop_lookups run).leases] at hfind
  exact ⟨hfind, ((reduceLoop_leaseRecords run).lookup id lease).mp hfind |>.2,
    ((reduceLoop_leaseRecords run).lookup id lease).mp hfind |>.1⟩

/-- A recorded candidate is a unit's own. -/
theorem candidate_unit {first x : EventV1} {events : List EventV1} {s : Reduction}
    (run : reduceLoop P first events = .ok s) (hx : x ∈ events) (hc : x.candidate? ≠ none) :
    x.unit = .velites := by
  have hverify := reduceLoop_verify run hx
  simp only [EventV1.verify, validatePayload, unit_bind_eq_ok, refuseIf_eq_ok, not_not] at hverify
  rw [hverify.2.1.1]
  unfold EventV1.candidate? at hc
  split at hc
  · rename_i hp
    simp [EventBody.kind, hp, Payload.kind, eventUnitByKindV1]
  · exact absurd rfl hc

/-! ## Lease evidence -/

/-- What the constructor of a lease event checked. -/
structure LeaseEvidence (P : Primitives) (e : EventV1) (lease : VerificationLeaseV1)
    (trust : VerifierTrustStore) (snapshotId : Digest) : Prop where
  identities : lease.missionId = e.missionId ∧ lease.authorityId = e.authorityId ∧
    lease.targetSnapshotId = e.targetId
  issued : lease.issuedAt = e.decisionTime
  producer : lease.candidateProducerId ≠ lease.verifierId
  eligible : eligibleVerifier trust snapshotId lease = true
  nonce : lease.leaseNonce = P.leaseNonce (lease.nonceInputs e.prevDigest)

theorem verify_leaseGrant {e : EventV1} {lease : VerificationLeaseV1}
    {trust : VerifierTrustStore} {snapshotId : Digest} (hv : e.verify P = .ok ())
    (hl : e.leaseGrant? = some (lease, trust, snapshotId)) :
    P.wellFormed e.toEventBody = true ∧ LeaseEvidence P e lease trust snapshotId := by
  refine ⟨verify_wellFormed hv, ?_⟩
  have hevidence : validateVerificationLeaseEvidence P e.toEventBody lease trust snapshotId =
      .ok () := by
    simp only [EventV1.verify, validatePayload, unit_bind_eq_ok] at hv
    obtain ⟨-, ⟨-, hpayload⟩, -⟩ := hv
    unfold EventV1.leaseGrant? at hl
    split at hl
    · rename_i hp
      rw [hp] at hpayload
      obtain ⟨rfl, rfl, rfl⟩ : _ ∧ _ ∧ _ := by simpa using hl
      exact hpayload
    · rename_i hp
      rw [hp] at hpayload
      obtain ⟨rfl, rfl, rfl⟩ : _ ∧ _ ∧ _ := by simpa using hl
      exact hpayload
    · simp at hl
  simp only [validateVerificationLeaseEvidence, unit_bind_eq_ok, refuseIf_eq_ok,
    orRefuse_bind_eq_ok, not_not, not_or] at hevidence
  obtain ⟨-, hidentities, hissued, hproducer, key, hkey, hrevoked, hrole, hverifier, hsnapshot,
    hnonce⟩ := hevidence
  exact ⟨hidentities, hissued, hproducer, by simp [eligibleVerifier, hkey, hrevoked, hrole,
    hverifier, hsnapshot], hnonce⟩

theorem leaseGrant_of_createdLease {e : EventV1} {lease : VerificationLeaseV1}
    (hl : e.createdLease? = some lease) : ∃ trust snapshotId,
      e.leaseGrant? = some (lease, trust, snapshotId) := by
  unfold EventV1.createdLease? at hl
  unfold EventV1.leaseGrant?
  split at hl <;> simp_all

/-- A retained lease has the mission's identities, and its producer is the candidate's. -/
theorem createdLease_identities {first : EventV1} {events : List EventV1} {s : Reduction}
    {lease : VerificationLeaseV1} (run : reduceLoop P first events = .ok s)
    (hl : lease ∈ createdLeases events) :
    (lease.missionId = s.missionId ∧ lease.authorityId = s.authorityId ∧
      lease.targetSnapshotId = s.targetId) ∧
    lease.candidateProducerId = KernelUnit.velites.text ∧ lease.candidateId ∈ s.candidateIds := by
  obtain ⟨e, he, hlease⟩ := List.mem_filterMap.mp hl
  obtain ⟨hm, ha, ht⟩ := (reduceLoop_positioned run).identities e he
  obtain ⟨trust, snapshotId, hgrant⟩ := leaseGrant_of_createdLease hlease
  have hevidence := (verify_leaseGrant (reduceLoop_verify run he) hgrant).2
  obtain ⟨hlm, hla, hlt⟩ := hevidence.identities
  obtain ⟨-, x, hx, hcandidate, hunit⟩ := (reduceLoop_leaseRecords run).producer lease hl
  obtain ⟨c, hc, hid⟩ := Option.map_eq_some_iff.mp hcandidate
  refine ⟨⟨hlm.trans hm, hla.trans ha, hlt.trans ht⟩, ?_, ?_⟩
  · rw [← hunit, candidate_unit run hx (by simp [hc])]
  · exact ((reduceLoop_records run).candidateIds _).mpr ⟨x, hx, c, hc, hid⟩

/-- The event the reducer finds for a recorded candidate. -/
theorem candidateEvent_of_mem {first : EventV1} {events : List EventV1} {s : Reduction}
    {c : Digest} (run : reduceLoop P first events = .ok s) (hc : c ∈ s.candidateIds) :
    ∃ x, s.candidateEventsById.lookup c = some x ∧ x.unit = .velites := by
  obtain ⟨x, hx⟩ := (reduceLoop_lookups run).candidateEvents c hc
  obtain ⟨hmem, k, hk, -⟩ := (reduceLoop_records run).candidateEvents c x hx
  exact ⟨x, hx, candidate_unit run hmem (by simp [hk])⟩

/-- The candidate event that a command finds. -/
theorem candidateEventOf_eq_some {first e : EventV1} {events : List EventV1}
    {q : MissionProjection} {c : Digest} (run : reduceLoop P first events = .ok q.final)
    (he : candidateEventOf q c = some e) : c ∈ q.final.candidateIds ∧ e.unit = .velites := by
  have hrec := reduceLoop_records run
  have hmem := List.mem_of_find?_eq_some he
  have hid := List.find?_some he
  rw [hrec.candidates] at hmem
  obtain ⟨k, hk, hkid⟩ := Option.map_eq_some_iff.mp (of_decide_eq_true hid)
  have hevent := (List.mem_filter.mp hmem).1
  exact ⟨(hrec.candidateIds c).mpr ⟨e, hevent, k, hk, hkid⟩,
    candidate_unit run hevent (by simp [hk])⟩

/-! ## Expiry, cancellation and closure -/

/-- A recovery command may append only to a mission that awaits verification. -/
theorem assertAppendable_eq_ok {retained : List EventV1} {q : MissionProjection} {head : Digest}
    {t : ℕ} (h : assertAppendable retained q head t = .ok ()) :
    q.final.phase = .awaitingVerification ∧
      assertHead retained head t "recovery decision time" = .ok () := by
  simp only [assertAppendable, unit_bind_eq_ok, refuseIf_eq_ok, not_not] at h
  exact h.2

/-- An active lease is the latest one of its candidate. -/
theorem latest_of_leaseById {retained : List EventV1} {q : MissionProjection} {id : Digest}
    {lease : VerificationLeaseV1} (h : reduceEvents P retained = .ok q)
    (hl : leaseById q id = .ok lease) (hactive : id ∈ q.final.activeVerificationLeaseIds) :
    q.final.latestVerificationLeaseByCandidate.lookup lease.candidateId = some id := by
  obtain ⟨hlookup, -, -⟩ := leaseById_eq_ok h hl
  obtain ⟨first, rest, rfl, -, run⟩ := reduceEvents_eq_ok h
  obtain ⟨lease', hlookup', -, hlatest⟩ := active_lease run hactive
  obtain rfl : lease = lease' := Option.some.inj (hlookup.symm.trans hlookup')
  exact hlatest

/-- What the commands that end a lease checked when they propose an event with a payload, to be
looked up among `events`. -/
structure DispositionDraft (P : Primitives) (events : MissionProjection → List EventV1)
    (r : LeaseRequest) (reasonCode : Option String) (payload : Payload) (retained : List EventV1)
    (q : MissionProjection) (p : Proposal) (lease : VerificationLeaseV1) : Prop where
  found : leaseById q r.verificationLeaseId = .ok lease
  existing : existingDisposition events r reasonCode q = .ok none
  appendable : assertAppendable retained q r.expectedHead r.decisionTime = .ok ()
  active : r.verificationLeaseId ∈ q.final.activeVerificationLeaseIds
  created : createEvent P retained q r.decisionTime payload = .ok p.event
  lookup : p.existing = existingDisposition events r reasonCode
  committed : p.committed = committedDisposition events r p.event

/-- A draft of an expiry found the event of an earlier call, or proposes. -/
theorem draftExpire_eq_ok {r : LeaseRequest} {retained : List EventV1} {q : MissionProjection}
    {d : Draft} (hd : draftExpire P r retained q = .ok d) :
    ∃ lease, leaseById q r.verificationLeaseId = .ok lease ∧
      ((∃ o, d = .replay o ∧ existingDisposition expiryEvents r none q = .ok (some o)) ∨
        ∃ p, d = .propose p ∧ lease.expiresAt ≤ r.decisionTime ∧
          DispositionDraft P expiryEvents r none
            (.verificationLeaseExpired r.verificationLeaseId) retained q p lease) := by
  obtain ⟨lease, hlease, hd⟩ := bind_eq_ok.mp hd
  refine ⟨lease, hlease, ?_⟩
  obtain ⟨existing, hexisting, hd⟩ := bind_eq_ok.mp hd
  cases existing with
  | some o => exact .inl ⟨o, (Except.ok.inj hd).symm, hexisting⟩
  | none =>
    obtain ⟨authority, -, hd⟩ := bind_eq_ok.mp hd
    simp only [unit_bind_eq_ok, refuseIf_eq_ok, not_not, not_lt] at hd
    obtain ⟨happend, hactive, htime, hd⟩ := hd
    obtain ⟨e, he, hreturn⟩ := bind_eq_ok.mp hd
    obtain rfl := Except.ok.inj hreturn
    exact .inr ⟨_, rfl, htime, hlease, hexisting, happend, hactive, he, rfl, rfl⟩

/-- A draft of a cancellation found the event of an earlier call, or proposes. -/
theorem draftCancel_eq_ok {r : LeaseRequest} {reasonCode : String} {retained : List EventV1}
    {q : MissionProjection} {d : Draft} (hd : draftCancel P r reasonCode retained q = .ok d) :
    ∃ lease, leaseById q r.verificationLeaseId = .ok lease ∧
      ((∃ o, d = .replay o ∧
          existingDisposition cancellationEvents r (some reasonCode) q = .ok (some o)) ∨
        ∃ p, d = .propose p ∧ r.decisionTime < lease.expiresAt ∧
          DispositionDraft P cancellationEvents r (some reasonCode)
            (.verificationLeaseCancelled reasonCode r.verificationLeaseId) retained q p lease) := by
  obtain ⟨lease, hlease, hd⟩ := bind_eq_ok.mp hd
  refine ⟨lease, hlease, ?_⟩
  obtain ⟨existing, hexisting, hd⟩ := bind_eq_ok.mp hd
  cases existing with
  | some o => exact .inl ⟨o, (Except.ok.inj hd).symm, hexisting⟩
  | none =>
    obtain ⟨authority, -, hd⟩ := bind_eq_ok.mp hd
    simp only [unit_bind_eq_ok, refuseIf_eq_ok, not_not, ge_iff_le, not_le] at hd
    obtain ⟨happend, hactive, htime, hd⟩ := hd
    obtain ⟨e, he, hreturn⟩ := bind_eq_ok.mp hd
    obtain rfl := Except.ok.inj hreturn
    exact .inr ⟨_, rfl, htime, hlease, hexisting, happend, hactive, he, rfl, rfl⟩

theorem draftExpire_drafted {r : LeaseRequest} {retained : List EventV1} {q : MissionProjection}
    {p : Proposal} (h : reduceEvents P retained = .ok q)
    (hd : draftExpire P r retained q = .ok (.propose p)) : Drafted P q p.event := by
  obtain ⟨lease, hlease, ⟨o, hp, -⟩ | ⟨p', hp, htime, hdraft⟩⟩ := draftExpire_eq_ok hd
  · simp at hp
  obtain rfl := Draft.propose.inj hp
  obtain ⟨hphase, hhead⟩ := assertAppendable_eq_ok hdraft.appendable
  have he := hdraft.created
  have hactive := hdraft.active
  refine .of_created h he hhead (by rw [hphase]; exact Option.some_ne_none _) ?_
  have hlatest := latest_of_leaseById h hlease hactive
  obtain ⟨hlookup, hid, -⟩ := leaseById_eq_ok h hlease
  rw [← hid] at hlookup hlatest hactive he
  obtain ⟨hnext, -⟩ := createEvent_eq_ok h he
  rw [hnext]
  exact ⟨_, applyVerificationLeaseExpired_ok hlookup hlatest hactive htime⟩

theorem applyVerificationLeaseCancelled_ok {s : Reduction} {e : EventV1}
    {lease : VerificationLeaseV1} {reasonCode : String}
    (hlease : s.verificationLeasesById.lookup lease.leaseId = some lease)
    (hreason : reasonCode = verificationLeaseCancellationReasonV1)
    (hlatest : s.latestVerificationLeaseByCandidate.lookup lease.candidateId =
      some lease.leaseId)
    (hactive : lease.leaseId ∈ s.activeVerificationLeaseIds)
    (hwindow : lease.issuedAt ≤ e.decisionTime ∧ e.decisionTime < lease.expiresAt) :
    ∃ t, applyVerificationLeaseCancelled s e reasonCode lease.leaseId = .ok t := by
  rw [applyVerificationLeaseCancelled, bind_of_ok (orRefuse_eq_ok.mpr hlease),
    refuseIf_bind_of_not (not_not.mpr hreason), refuseIf_bind_of_not (not_not.mpr hlatest),
    refuseIf_bind_of_not (not_not.mpr hactive), refuseIf_bind_of_not (not_not.mpr hwindow)]
  exact ⟨_, rfl⟩

/-- A retained lease was issued at a time of the stream. -/
theorem createdLease_issuedAt {first : EventV1} {events : List EventV1} {s : Reduction}
    {lease : VerificationLeaseV1} (run : reduceLoop P first events = .ok s)
    (hl : lease ∈ createdLeases events) :
    ∃ t ∈ s.previousDecisionTime, lease.issuedAt ≤ t := by
  obtain ⟨e, he, hlease⟩ := List.mem_filterMap.mp hl
  obtain ⟨trust, snapshotId, hgrant⟩ := leaseGrant_of_createdLease hlease
  have hevidence := (verify_leaseGrant (reduceLoop_verify run he) hgrant).2
  obtain ⟨t, ht, hle⟩ := (reduceLoop_times run).2 e he
  exact ⟨t, ht, hevidence.issued ▸ hle⟩

theorem draftCancel_drafted {r : LeaseRequest} {reasonCode : String} {retained : List EventV1}
    {q : MissionProjection} {p : Proposal} (h : reduceEvents P retained = .ok q)
    (hd : draftCancel P r reasonCode retained q = .ok (.propose p)) : Drafted P q p.event := by
  obtain ⟨lease, hlease, ⟨o, hp, -⟩ | ⟨p', hp, htime, hdraft⟩⟩ := draftCancel_eq_ok hd
  · simp at hp
  obtain rfl := Draft.propose.inj hp
  obtain ⟨hphase, hhead⟩ := assertAppendable_eq_ok hdraft.appendable
  have he := hdraft.created
  have hactive := hdraft.active
  refine .of_created h he hhead (by rw [hphase]; exact Option.some_ne_none _) ?_
  have hlatest := latest_of_leaseById h hlease hactive
  obtain ⟨hlookup, hid, hmem⟩ := leaseById_eq_ok h hlease
  rw [← hid] at hlookup hlatest hactive he
  have hnotback := assertHead_time h hhead
  obtain ⟨hnext, hverify⟩ := createEvent_eq_ok h he
  rw [hnext] at hverify ⊢
  -- The event's own constructor checked the reason.
  have hreason : reasonCode = verificationLeaseCancellationReasonV1 := by
    simp only [EventV1.verify, validatePayload, unit_bind_eq_ok, nextEvent_payload,
      refuseIf_eq_ok, not_not] at hverify
    exact hverify.2.1.2
  obtain ⟨first, rest, rfl, -, run⟩ := reduceEvents_eq_ok h
  obtain ⟨t, ht, hissued⟩ := createdLease_issuedAt run hmem
  exact applyVerificationLeaseCancelled_ok hlookup hreason hlatest hactive
    ⟨hissued.trans (hnotback t ht), htime⟩

/-- What `close_modeled_fixture_verification_mission` checked when it proposes. -/
structure CloseDraft (P : Primitives) (r : CloseRequest) (retained : List EventV1)
    (q : MissionProjection) (p : Proposal) (status : ClosedStatus) : Prop where
  existing : existingClosure r.decisionTime q = .ok none
  scanned : q.final.phase.scanned
  head : assertHead retained r.expectedHead r.decisionTime "closure decision time" = .ok ()
  coverage : verificationClosureStatus q = .ok status
  created : createEvent P retained q r.decisionTime
    (.missionClosed q.final.candidates.length q.final.failures.length status) = .ok p.event
  lookup : p.existing = existingClosure r.decisionTime
  committed : p.committed = fun c => do
    let retained ← orRefuse (c.final.terminal.filter fun x => x.eventDigest = p.event.eventDigest)
      (.rejected "committed_event_missing" "appended verification closure is absent from replay")
    return { projection := c, event := retained, value := .closure status, replayed := false }

/-- A draft of a closure found the event of an earlier call, or proposes. -/
theorem draftClose_eq_ok {r : CloseRequest} {retained : List EventV1} {q : MissionProjection}
    {d : Draft} (hd : draftClose P r retained q = .ok d) :
    ∃ authority, recoveryAuthority q = .ok authority ∧
      ((∃ o, d = .replay o ∧ existingClosure r.decisionTime q = .ok (some o)) ∨
        ∃ p status, d = .propose p ∧ CloseDraft P r retained q p status) := by
  obtain ⟨authority, hauthority, hd⟩ := bind_eq_ok.mp hd
  refine ⟨authority, hauthority, ?_⟩
  obtain ⟨existing, hexisting, hd⟩ := bind_eq_ok.mp hd
  cases existing with
  | some o => exact .inl ⟨o, (Except.ok.inj hd).symm, hexisting⟩
  | none =>
    simp only [unit_bind_eq_ok, refuseIf_eq_ok, not_not] at hd
    obtain ⟨-, hscanned, hhead, hd⟩ := hd
    obtain ⟨status, hstatus, hd⟩ := bind_eq_ok.mp hd
    obtain ⟨-, hd⟩ := unit_bind_eq_ok.mp hd
    obtain ⟨e, he, hreturn⟩ := bind_eq_ok.mp hd
    obtain rfl := Except.ok.inj hreturn
    exact .inr ⟨_, status, rfl, hexisting, hscanned, hhead, hstatus, he, rfl, rfl⟩

theorem nextPhase_close : ∀ p : Phase, p.scanned → nextPhase p .missionClosed ≠ none := by
  decide

theorem draftClose_drafted {r : CloseRequest} {retained : List EventV1} {q : MissionProjection}
    {p : Proposal} (h : reduceEvents P retained = .ok q)
    (hd : draftClose P r retained q = .ok (.propose p)) : Drafted P q p.event := by
  obtain ⟨⟨grant, admission⟩, hauthority, ⟨o, hp, -⟩ | ⟨p', status, hp, hdraft⟩⟩ :=
    draftClose_eq_ok hd
  · simp at hp
  obtain rfl := Draft.propose.inj hp
  refine .of_created h hdraft.created hdraft.head (nextPhase_close _ hdraft.scanned) ?_
  obtain ⟨⟨-, hadmission, -⟩, hlacks⟩ := recoveryAuthority_eq_ok h hauthority
  have hintent : q.final.verificationIntent :=
    ⟨admission, hadmission, (not_not.mp (not_or.mp hlacks).1)⟩
  have hclosed := checkClosedStatus_of_status h hintent hdraft.coverage
  obtain ⟨hnext, -⟩ := createEvent_eq_ok h hdraft.created
  obtain ⟨first, rest, rfl, -, run⟩ := reduceEvents_eq_ok h
  rw [hnext]
  exact ⟨_, applyMissionClosed_ok run hdraft.scanned hclosed⟩

/-! ## Fresh leases -/

/-- What the id of a lease is computed from. -/
def VerificationLeaseV1.content (l : VerificationLeaseV1) : VerificationLeaseV1 :=
  { l with leaseId := 0 }

variable (P W) in
/-- The constructor of a lease compares its id with the one of its content. -/
structure LeaseWire : Prop where
  leaseId : ∀ e : EventV1, P.wellFormed e.toEventBody = true →
    ∀ l, e.createdLease? = some l → l.leaseId = W.leaseId l.content

variable (P W) in
/-- No two of the hashes of a history collide : the ids of its events, and the nonces and the
ids of its leases. -/
structure CollisionFree (h : List EventV1) : Prop where
  events : ∀ a ∈ h, ∀ b ∈ h, P.eventId a.toEventBody = P.eventId b.toEventBody →
    a.toEventBody = b.toEventBody
  nonces : ∀ a ∈ h, ∀ b ∈ h, ∀ k l, a.createdLease? = some k → b.createdLease? = some l →
    P.leaseNonce (k.nonceInputs a.prevDigest) = P.leaseNonce (l.nonceInputs b.prevDigest) →
    k.nonceInputs a.prevDigest = l.nonceInputs b.prevDigest
  leaseIds : ∀ k ∈ createdLeases h, ∀ l ∈ createdLeases h,
    W.leaseId k.content = W.leaseId l.content → k.content = l.content

theorem CollisionFree.longer {h : List EventV1} {e : EventV1}
    (hfree : CollisionFree P W (h ++ [e])) : CollisionFree P W h where
  events a ha b hb := hfree.events a (List.mem_append_left _ ha) b (List.mem_append_left _ hb)
  nonces a ha b hb := hfree.nonces a (List.mem_append_left _ ha) b (List.mem_append_left _ hb)
  leaseIds k hk l hl := by
    have hle : ∀ x ∈ createdLeases h, x ∈ createdLeases (h ++ [e]) := by
      intro x hx
      rw [createdLeases_snoc]
      exact List.mem_append_left _ hx
    exact hfree.leaseIds k (hle k hk) l (hle l hl)

theorem verify_eventDigest {e : EventV1} (h : e.verify P = .ok ()) :
    e.eventDigest = P.eventId e.toEventBody := by
  simp only [EventV1.verify, unit_bind_eq_ok, refuseIf_eq_ok, not_not] at h
  exact h.2.2

/-- The events of an accepted stream are numbered, and each names its predecessor. -/
theorem reduceLoop_chained {first : EventV1} {events : List EventV1} {s : Reduction}
    (run : reduceLoop P first events = .ok s) {pre post : List EventV1} {e : EventV1}
    (hsplit : events = pre ++ e :: post) : e.seq = pre.length ∧ e.prevDigest = headDigest pre := by
  subst hsplit
  obtain ⟨m, m', hpre, hstep, -⟩ := foldlM_split run
  obtain ⟨hheader, -⟩ := step_turn hstep
  have hpos := reduceLoop_positioned hpre
  exact ⟨hheader.hseq.trans hpos.seq, hheader.hprev.trans hpos.prev⟩

/-- No event of an accepted stream names the stream's own head as its predecessor. -/
theorem prevDigest_ne_head {first e : EventV1} {events : List EventV1} {s : Reduction}
    (run : reduceLoop P first events = .ok s) (hfree : CollisionFree P W events)
    (he : e ∈ events) (hlease : e.createdLease? ≠ none) : e.prevDigest ≠ headDigest events := by
  obtain ⟨pre, post, hsplit⟩ := List.append_of_mem he
  obtain ⟨hseq, hprev⟩ := reduceLoop_chained run hsplit
  rw [hprev]
  rcases List.eq_nil_or_concat pre with rfl | ⟨front, a, rfl⟩
  · -- A lease is never created by the first event.
    subst hsplit
    obtain ⟨m, m', hpre, hstep, -⟩ := foldlM_split run
    obtain rfl : Reduction.initial first = m := Except.ok.inj hpre
    obtain ⟨-, phase, t, hphase, -, -⟩ := step_turn hstep
    have hkind : nextPhase .start e.kind = none := by
      unfold EventV1.createdLease? at hlease
      split at hlease
      · rename_i hp
        simp [EventBody.kind, hp, Payload.kind, nextPhase]
      · rename_i hp
        simp [EventBody.kind, hp, Payload.kind, nextPhase]
      · exact absurd rfl hlease
    have hsome := transition_eq_ok hphase
    simp [Reduction.initial, hkind] at hsome
  · rw [List.concat_eq_append] at hsplit hseq ⊢
    obtain ⟨body, b, hlast⟩ : ∃ body b, events = body ++ [b] :=
      ⟨_, _, (List.dropLast_append_getLast (List.ne_nil_of_mem he)).symm⟩
    have ha : a ∈ events := by simp [hsplit]
    have hb : b ∈ events := by simp [hlast]
    rw [headDigest_snoc]
    intro heq
    rw [hlast, headDigest_snoc, verify_eventDigest (reduceLoop_verify run ha),
      verify_eventDigest (reduceLoop_verify run hb)] at heq
    have hsame := hfree.events a ha b hb heq
    have haseq : a.seq = front.length :=
      (reduceLoop_chained run (show _ = front ++ a :: e :: post by simp [hsplit])).1
    have hbseq : b.seq = body.length := (reduceLoop_chained run hlast).1
    have hlength := congrArg List.length (hsplit.symm.trans hlast)
    have hnumber : a.seq = b.seq := congrArg EventBody.seq hsame
    simp only [List.length_append, List.length_cons, List.length_nil] at hlength
    omega

theorem mem_createdLeases_of_id {first : EventV1} {events : List EventV1} {s : Reduction}
    {i : Digest} (run : reduceLoop P first events = .ok s) (hi : i ∈ s.verificationLeaseIds) :
    ∃ e ∈ events, ∃ l, e.createdLease? = some l ∧ l.leaseId = i := by
  obtain ⟨b, hb, hr⟩ := reduceLoop_follows run
  have hmem : i ∈ leases (leaseMoves events) := by
    by_contra hnot
    exact (hr.ids i).mp hi (((known hb).status i).mpr hnot)
  rw [leases_leaseMoves] at hmem
  obtain ⟨l, hl, rfl⟩ := List.mem_map.mp hmem
  obtain ⟨e, he, hlease⟩ := List.mem_filterMap.mp hl
  exact ⟨e, he, l, hlease, rfl⟩

/-- The lease of a drafted event is not retained yet : its nonce names the head. -/
theorem fresh_lease {retained : List EventV1} {q : MissionProjection} {e : EventV1}
    {lease : VerificationLeaseV1} (hW : LeaseWire P W) (h : reduceEvents P retained = .ok q)
    (hfree : CollisionFree P W (retained ++ [e])) (hverify : e.verify P = .ok ())
    (hlease : e.createdLease? = some lease) (hprev : e.prevDigest = headDigest retained) :
    lease.leaseId ∉ q.final.verificationLeaseIds := by
  obtain ⟨first, rest, rfl, -, run⟩ := reduceEvents_eq_ok h
  intro hi
  obtain ⟨x, hx, l, hl, hid⟩ := mem_createdLeases_of_id run hi
  have hxverify := reduceLoop_verify run hx
  obtain ⟨trust, snapshotId, hgrant⟩ := leaseGrant_of_createdLease hlease
  obtain ⟨trust', snapshotId', hgrant'⟩ := leaseGrant_of_createdLease hl
  obtain ⟨hwell, hevidence⟩ := verify_leaseGrant hverify hgrant
  obtain ⟨hwell', hevidence'⟩ := verify_leaseGrant hxverify hgrant'
  have hxmem : x ∈ first :: rest ++ [e] := List.mem_append_left _ hx
  have hemem : e ∈ first :: rest ++ [e] := by simp
  -- Equal ids, equal contents, equal nonces, equal predecessors.
  have hcontent : l.content = lease.content := by
    refine hfree.leaseIds l (List.mem_filterMap.mpr ⟨x, hxmem, hl⟩) lease
      (List.mem_filterMap.mpr ⟨e, hemem, hlease⟩) ?_
    rw [← hW.leaseId x hwell' l hl, ← hW.leaseId e hwell lease hlease, hid]
  have hnonce : l.content.leaseNonce = lease.content.leaseNonce := by rw [hcontent]
  have hinputs := hfree.nonces x hxmem e hemem l lease hl hlease
    (by rw [← hevidence'.nonce, ← hevidence.nonce]; exact hnonce)
  have hsame : x.prevDigest = e.prevDigest := congrArg LeaseNonceInputs.priorEventDigest hinputs
  exact prevDigest_ne_head run hfree.longer hx (by simp [hl]) (hsame.trans hprev)

/-! ## Issuance -/

/-- A lease is what the kernel derives from its inputs. -/
theorem issueLease_eq_ok {x : LeaseNonceInputs} {lease : VerificationLeaseV1}
    (h : issueLease P W x = .ok lease) : ∃ id, lease = leaseOfInputs x (P.leaseNonce x) id := by
  simp only [issueLease, unit_bind_eq_ok] at h
  exact ⟨_, (Except.ok.inj h.2.2).symm⟩

theorem assignedVerifier_eq_ok {trust : VerifierTrustStore} {keyId : KeyId} {what : String}
    {key : TrustedVerifierKey} (h : assignedVerifier trust keyId what = .ok key) :
    trust.key keyId = some key := by
  simp only [assignedVerifier, unit_bind_eq_ok, orRefuse_bind_eq_ok] at h
  obtain ⟨-, key', hkey, -, hreturn⟩ := h
  exact hkey.trans (congrArg some (Except.ok.inj hreturn))

/-- The inputs of the lease that an issuance derives. -/
def issueInputs (P : Primitives) (r : IssueRequest) (retained : List EventV1)
    (q : MissionProjection) (candidateEvent : EventV1) (key : TrustedVerifierKey)
    (expiresAt : ℕ) : LeaseNonceInputs where
  priorEventDigest := headDigest retained
  bindings :=
    { missionId := q.final.missionId
      authorityId := q.final.authorityId
      targetSnapshotId := q.final.targetId
      candidateId := r.candidateId
      candidateProducerId := candidateEvent.unit.text
      pocArtifactDigest := r.pocArtifactDigest
      evidenceArtifactDigests := r.evidenceArtifactDigests
      environmentDigest := r.environmentDigest
      effectOracleId := r.effectOracleId }
  verifierId := key.verifierId
  verifierKeyId := r.verifierKeyId
  issuedAt := r.decisionTime
  expiresAt := expiresAt
  issuanceTrustSnapshotId := P.trustSnapshotId r.verifierTrustStore

/-- What `issue_modeled_fixture_verification_lease` checks before it looks for an earlier
event : its arguments against the retained authority, candidate and verifier. -/
structure IssueContext (r : IssueRequest) (q : MissionProjection) (grant : AuthorityGrantV1)
    (admission : AuthorityAdmissionV1) (candidateEvent : EventV1) (key : TrustedVerifierKey)
    (expiresAt : ℕ) : Prop where
  authority : authorityEvidence q "verification leases require" = .ok (grant, admission)
  authorized : ¬lacksVerificationAuthority admission grant
  wallclock : r.requestedWallclockSeconds ≤ grant.maxWallclockSeconds
  candidate : candidateEventOf q r.candidateId = some candidateEvent
  verifier : assignedVerifier r.verifierTrustStore r.verifierKeyId "assigned" = .ok key
  producer : candidateEvent.unit.text ≠ key.verifierId
  deadline : expiresAt = min (grantDeadline grant admission)
    (r.decisionTime + r.requestedWallclockSeconds)
  admitted : admission.decisionTime ≤ r.decisionTime
  window : r.decisionTime < expiresAt

/-- What `issue_modeled_fixture_verification_lease` checked when it proposes. -/
structure IssueDraft (P : Primitives) (W : CommandEnv) (r : IssueRequest)
    (retained : List EventV1) (q : MissionProjection) (p : Proposal) (grant : AuthorityGrantV1)
    (admission : AuthorityAdmissionV1) (candidateEvent : EventV1) (key : TrustedVerifierKey)
    (expiresAt : ℕ) (lease : VerificationLeaseV1) : Prop
    extends IssueContext r q grant admission candidateEvent key expiresAt where
  scanned : q.final.phase.scanned
  existing : matchingExisting P r key.verifierId expiresAt q = .ok none
  head : assertHead retained r.expectedHead r.decisionTime "verification issuance time" = .ok ()
  budget : q.final.verificationLeaseEvents.length < grant.maxCandidates
  derived : ∃ id, lease = leaseOfInputs (issueInputs P r retained q candidateEvent key expiresAt)
    (P.leaseNonce (issueInputs P r retained q candidateEvent key expiresAt)) id
  created : createEvent P retained q r.decisionTime (.verificationLeaseIssued lease
    r.verifierTrustStore (P.trustSnapshotId r.verifierTrustStore)) = .ok p.event
  lookup : p.existing = matchingExisting P r key.verifierId expiresAt
  committed : p.committed = fun c =>
    committedOutcome c.final.verificationLeaseEvents c p.event "verification lease event" leaseValue

/-- A draft of an issuance found the event of an earlier call, or proposes. -/
theorem draftIssue_eq_ok {r : IssueRequest} {retained : List EventV1} {q : MissionProjection}
    {d : Draft} (hd : draftIssue P W r retained q = .ok d) :
    ∃ grant admission candidateEvent key expiresAt,
      IssueContext r q grant admission candidateEvent key expiresAt ∧
      ((∃ o, d = .replay o ∧ matchingExisting P r key.verifierId expiresAt q = .ok (some o)) ∨
        ∃ p lease, d = .propose p ∧
          IssueDraft P W r retained q p grant admission candidateEvent key expiresAt lease) := by
  simp only [draftIssue, unit_bind_eq_ok, refuseIf_eq_ok, not_not] at hd
  obtain ⟨-, hscanned, hd⟩ := hd
  obtain ⟨⟨grant, admission⟩, hauthority, hd⟩ := bind_eq_ok.mp hd
  simp only [unit_bind_eq_ok, refuseIf_eq_ok, orRefuse_bind_eq_ok, not_lt] at hd
  obtain ⟨hauthorized, hwallclock, candidateEvent, hcandidate, hd⟩ := hd
  obtain ⟨key, hkey, hd⟩ := bind_eq_ok.mp hd
  simp only [unit_bind_eq_ok, refuseIf_eq_ok, not_lt, ge_iff_le, not_le] at hd
  obtain ⟨hproducer, hadmitted, hwindow, hd⟩ := hd
  have hcontext : IssueContext r q grant admission candidateEvent key _ :=
    ⟨hauthority, hauthorized, hwallclock, hcandidate, hkey, hproducer, rfl, hadmitted, hwindow⟩
  refine ⟨grant, admission, candidateEvent, key, _, hcontext, ?_⟩
  obtain ⟨existing, hexisting, hd⟩ := bind_eq_ok.mp hd
  cases existing with
  | some o => exact .inl ⟨o, (Except.ok.inj hd).symm, hexisting⟩
  | none =>
    simp only [unit_bind_eq_ok, refuseIf_eq_ok, not_le] at hd
    obtain ⟨hhead, hbudget, hd⟩ := hd
    obtain ⟨lease, hlease, hd⟩ := bind_eq_ok.mp hd
    obtain ⟨e, he, hreturn⟩ := bind_eq_ok.mp hd
    obtain rfl := Except.ok.inj hreturn
    exact .inr ⟨_, lease, rfl, hcontext, hscanned, hexisting, hhead, hbudget,
      issueLease_eq_ok (mapError_eq_ok.mp hlease), he, rfl, rfl⟩

theorem draftIssue_propose {r : IssueRequest} {retained : List EventV1} {q : MissionProjection}
    {p : Proposal} (hd : draftIssue P W r retained q = .ok (.propose p)) :
    ∃ grant admission candidateEvent key expiresAt lease,
      IssueDraft P W r retained q p grant admission candidateEvent key expiresAt lease := by
  obtain ⟨grant, admission, candidateEvent, key, expiresAt, -,
    ⟨o, hp, -⟩ | ⟨p', lease, hp, hdraft⟩⟩ := draftIssue_eq_ok hd
  · simp at hp
  · obtain rfl := Draft.propose.inj hp
    exact ⟨grant, admission, candidateEvent, key, expiresAt, lease, hdraft⟩

theorem matchingExisting_eq_none {r : IssueRequest} {verifierId : String} {expiresAt : ℕ}
    {q : MissionProjection} (h : matchingExisting P r verifierId expiresAt q = .ok none) :
    ∀ e ∈ q.final.verificationLeaseEvents,
      e.createdLease?.map VerificationLeaseV1.candidateId ≠ some r.candidateId := by
  unfold matchingExisting at h
  split at h
  · rename_i hfind
    simpa using List.find?_eq_none.mp hfind
  · obtain ⟨⟨lease, trust, snapshotId⟩, -, h⟩ := bind_eq_ok.mp h
    simp [pure, Except.pure] at h

/-- A candidate without a retained lease was never assigned. -/
theorem never_assigned {retained : List EventV1} {q : MissionProjection} {c : Digest}
    (h : reduceEvents P retained = .ok q)
    (hnone : ∀ l ∈ createdLeases retained, l.candidateId ≠ c) :
    q.final.latestVerificationLeaseByCandidate.lookup c = none := by
  obtain ⟨first, rest, rfl, -, run⟩ := reduceEvents_eq_ok h
  obtain ⟨b, hb, hr⟩ := reduceLoop_follows run
  rw [hr.latest, (linked hb).latest, chain_leaseMoves]
  have hempty : (createdLeases (first :: rest)).filter (fun l => l.candidateId = c) = [] := by
    rw [List.filter_eq_nil_iff]
    simpa using hnone
  rw [hempty]
  rfl

/-- The lease events of a projection create the retained leases. -/
theorem mem_leaseEvents {retained : List EventV1} {q : MissionProjection} {l : VerificationLeaseV1}
    (h : reduceEvents P retained = .ok q) (hl : l ∈ createdLeases retained) :
    ∃ e ∈ q.final.verificationLeaseEvents, e.createdLease? = some l := by
  obtain ⟨first, rest, rfl, -, run⟩ := reduceEvents_eq_ok h
  rw [(reduceLoop_records run).leases]
  rw [← createdLeases_ofKinds] at hl
  exact List.mem_filterMap.mp hl

theorem applyVerificationLeaseIssued_ok {s : Reduction} {e candidateEvent : EventV1}
    {lease : VerificationLeaseV1} {trust : VerifierTrustStore} {snapshotId : Digest}
    {admission : AuthorityAdmissionV1} {grant : AuthorityGrantV1}
    (h : LeaseAdmitted s e lease candidateEvent admission grant)
    (heligible : eligibleVerifier trust snapshotId lease = true)
    (hnever : s.latestVerificationLeaseByCandidate.lookup lease.candidateId = none) :
    ∃ t, applyVerificationLeaseIssued s e lease trust snapshotId = .ok t := by
  have hnot : lease.candidateId ∉ s.latestVerificationLeaseByCandidate := by
    rw [← AList.lookup_isSome, hnever]
    simp
  have hbudget : ¬s.verificationLeaseEvents.length + 1 > grant.maxCandidates := by
    have := h.hcount
    omega
  rw [applyVerificationLeaseIssued, bind_of_ok (orRefuse_eq_ok.mpr h.hgrant),
    bind_of_ok (orRefuse_eq_ok.mpr h.hadmission), refuseIf_bind_of_not h.hauthority,
    bind_of_ok (orRefuse_eq_ok.mpr h.hcandidate), refuseIf_bind_of_not h.hbindings,
    refuseIf_bind_of_not (not_not.mpr h.hissued), refuseIf_bind_of_not (not_not.mpr h.hwindow),
    refuseIf_bind_of_not h.hproducer, refuseIf_bind_of_not (by simp [heligible]),
    refuseIf_bind_of_not h.hfresh, refuseIf_bind_of_not hnot, refuseIf_bind_of_not hbudget]
  exact ⟨_, rfl⟩

theorem nextPhase_issue : ∀ p : Phase, p.scanned → nextPhase p .verificationLeaseIssued ≠ none := by
  decide

theorem draftIssue_drafted {r : IssueRequest} {retained : List EventV1} {q : MissionProjection}
    {p : Proposal} (hW : LeaseWire P W) (h : reduceEvents P retained = .ok q)
    (hd : draftIssue P W r retained q = .ok (.propose p))
    (hfree : CollisionFree P W (retained ++ [p.event])) : Drafted P q p.event := by
  obtain ⟨grant, admission, candidateEvent, key, expiresAt, lease, hdraft⟩ := draftIssue_propose hd
  refine .of_created h hdraft.created hdraft.head (nextPhase_issue _ hdraft.scanned) ?_
  obtain ⟨hnext, hverify⟩ := createEvent_eq_ok h hdraft.created
  have hpayload := (congrArg (fun e => e.payload) hnext).trans nextEvent_payload
  have hevidence := (verify_leaseGrant hverify (by rw [hnext]; rfl)).2
  obtain ⟨hgrant, hadmission, -⟩ := authorityEvidence_eq_ok h hdraft.authority
  obtain ⟨first, rest, rfl, -, run⟩ := reduceEvents_eq_ok h
  obtain ⟨hcandidate, hunit⟩ := candidateEventOf_eq_some run hdraft.candidate
  obtain ⟨x, hx, hxunit⟩ := candidateEvent_of_mem run hcandidate
  have hcreated : p.event.createdLease? = some lease := by rw [hnext]; rfl
  have hfresh := fresh_lease hW h hfree hverify hcreated
    (by rw [hnext]; exact (reduceLoop_positioned run).prev)
  obtain ⟨id, hlease⟩ := hdraft.derived
  have hwindow := hdraft.window
  have hdeadline : expiresAt ≤ grantDeadline grant admission := by
    rw [hdraft.deadline]
    exact min_le_left _ _
  have hnever := never_assigned h (c := r.candidateId) (fun l hl => by
    obtain ⟨e, he, hcreated⟩ := mem_leaseEvents h hl
    have := matchingExisting_eq_none hdraft.existing e he
    simpa [hcreated] using this)
  have hadmitted : LeaseAdmitted q.final p.event lease x admission grant := by
    refine ⟨hgrant, hadmission, hdraft.authorized, ?_, ?_, hevidence.issued, ?_,
      hevidence.producer, hfresh, hdraft.budget⟩
    · rw [hlease]
      exact hx
    · rw [hlease]
      simp [Reduction.foreignLease, leaseOfInputs, issueInputs, hunit, hxunit]
    · rw [hlease]
      exact ⟨hdraft.admitted, hwindow, hdeadline⟩
  simp only [applyPayload, hpayload]
  refine applyVerificationLeaseIssued_ok hadmitted hevidence.eligible ?_
  rw [hlease]
  exact hnever

/-! ## Reassignment -/

/-- The inputs of the lease that a reassignment derives. -/
def successorInputs (P : Primitives) (r : ReassignRequest) (retained : List EventV1)
    (predecessor : VerificationLeaseV1) (key : TrustedVerifierKey) (expiresAt : ℕ) :
    LeaseNonceInputs where
  priorEventDigest := headDigest retained
  bindings := predecessor.bindings
  verifierId := key.verifierId
  verifierKeyId := r.verifierKeyId
  issuedAt := r.decisionTime
  expiresAt := expiresAt
  issuanceTrustSnapshotId := P.trustSnapshotId r.verifierTrustStore

/-- What `reassign_modeled_fixture_verification_lease` checks before it looks for an earlier
event. -/
structure ReassignContext (r : ReassignRequest) (q : MissionProjection)
    (predecessor : VerificationLeaseV1) (grant : AuthorityGrantV1)
    (admission : AuthorityAdmissionV1) (expiresAt : ℕ) : Prop where
  found : leaseById q r.predecessorVerificationLeaseId = .ok predecessor
  authority : recoveryAuthority q = .ok (grant, admission)
  wallclock : r.requestedWallclockSeconds ≤ grant.maxWallclockSeconds
  deadline : expiresAt = min (grantDeadline grant admission)
    (r.decisionTime + r.requestedWallclockSeconds)

/-- What `reassign_modeled_fixture_verification_lease` checked when it proposes. -/
structure ReassignDraft (P : Primitives) (W : CommandEnv) (r : ReassignRequest)
    (retained : List EventV1) (q : MissionProjection) (p : Proposal)
    (predecessor : VerificationLeaseV1) (grant : AuthorityGrantV1)
    (admission : AuthorityAdmissionV1) (expiresAt : ℕ) (reason : ReassignmentReason)
    (key : TrustedVerifierKey) (lease : VerificationLeaseV1) : Prop
    extends ReassignContext r q predecessor grant admission expiresAt where
  existing : existingReassignment P r predecessor expiresAt q = .ok none
  appendable : assertAppendable retained q r.expectedHead r.decisionTime = .ok ()
  latest : q.final.latestVerificationLeaseByCandidate.lookup predecessor.candidateId =
    some predecessor.leaseId
  disposition : reassignmentReason q predecessor.leaseId = .ok reason
  unexpired : ¬(reason = .activeLeaseSuperseded ∧ r.decisionTime ≥ predecessor.expiresAt)
  window : r.decisionTime < expiresAt
  budget : q.final.verificationLeaseEvents.length < grant.maxCandidates
  verifier : r.verifierTrustStore.key r.verifierKeyId = some key
  different : key.verifierId ≠ predecessor.verifierId
  derived : ∃ id, lease = leaseOfInputs (successorInputs P r retained predecessor key expiresAt)
    (P.leaseNonce (successorInputs P r retained predecessor key expiresAt)) id
  created : createEvent P retained q r.decisionTime (.verificationLeaseReassigned lease
    predecessor.leaseId reason r.verifierTrustStore (P.trustSnapshotId r.verifierTrustStore)) =
      .ok p.event
  lookup : p.existing = existingReassignment P r predecessor expiresAt
  committed : p.committed = fun c =>
    committedOutcome c.final.verificationLeaseReassignmentEvents c p.event "reassignment event"
      fun x => do
        let successor ← orRefuse x.createdLease? (.raised "event has no lease")
        return .reassignment predecessor successor

/-- A draft of a reassignment found the event of an earlier call, or proposes. -/
theorem draftReassign_eq_ok {r : ReassignRequest} {retained : List EventV1}
    {q : MissionProjection} {d : Draft} (hd : draftReassign P W r retained q = .ok d) :
    ∃ predecessor grant admission expiresAt,
      ReassignContext r q predecessor grant admission expiresAt ∧
      ((∃ o, d = .replay o ∧ existingReassignment P r predecessor expiresAt q = .ok (some o)) ∨
        ∃ p reason key lease, d = .propose p ∧
          ReassignDraft P W r retained q p predecessor grant admission expiresAt reason key
            lease) := by
  obtain ⟨predecessor, hpredecessor, hd⟩ := bind_eq_ok.mp hd
  obtain ⟨⟨grant, admission⟩, hauthority, hd⟩ := bind_eq_ok.mp hd
  obtain ⟨hwallclock, hd⟩ := unit_bind_eq_ok.mp hd
  have hcontext : ReassignContext r q predecessor grant admission _ :=
    ⟨hpredecessor, hauthority, not_lt.mp (refuseIf_eq_ok.mp hwallclock), rfl⟩
  refine ⟨predecessor, grant, admission, _, hcontext, ?_⟩
  obtain ⟨existing, hexisting, hd⟩ := bind_eq_ok.mp hd
  cases existing with
  | some o => exact .inl ⟨o, (Except.ok.inj hd).symm, hexisting⟩
  | none =>
    simp only [unit_bind_eq_ok, refuseIf_eq_ok, not_not] at hd
    obtain ⟨happend, hlatest, hd⟩ := hd
    obtain ⟨reason, hreason, hd⟩ := bind_eq_ok.mp hd
    simp only [unit_bind_eq_ok, refuseIf_eq_ok, ge_iff_le, not_le] at hd
    obtain ⟨hunexpired, hwindow, hbudget, hd⟩ := hd
    obtain ⟨key, hkey, hd⟩ := bind_eq_ok.mp hd
    simp only [unit_bind_eq_ok, refuseIf_eq_ok] at hd
    obtain ⟨hdifferent, -, hd⟩ := hd
    obtain ⟨lease, hlease, hd⟩ := bind_eq_ok.mp hd
    obtain ⟨e, he, hreturn⟩ := bind_eq_ok.mp hd
    obtain rfl := Except.ok.inj hreturn
    exact .inr ⟨_, reason, key, lease, rfl, hcontext, hexisting, happend, hlatest, hreason,
      hunexpired, hwindow, hbudget, assignedVerifier_eq_ok hkey, hdifferent,
      issueLease_eq_ok (mapError_eq_ok.mp hlease), he, rfl, rfl⟩

theorem draftReassign_propose {r : ReassignRequest} {retained : List EventV1}
    {q : MissionProjection} {p : Proposal}
    (hd : draftReassign P W r retained q = .ok (.propose p)) :
    ∃ predecessor grant admission expiresAt reason key lease,
      ReassignDraft P W r retained q p predecessor grant admission expiresAt reason key lease := by
  obtain ⟨predecessor, grant, admission, expiresAt, -, ⟨o, hp, -⟩ |
    ⟨p', reason, key, lease, hp, hdraft⟩⟩ := draftReassign_eq_ok hd
  · simp at hp
  · obtain rfl := Draft.propose.inj hp
    exact ⟨predecessor, grant, admission, expiresAt, reason, key, lease, hdraft⟩

/-- The reducer accepts the reason that the command read off the dispositions. -/
theorem supersedePredecessor_ok {q : MissionProjection} {e : EventV1}
    {predecessor : VerificationLeaseV1} {reason : ReassignmentReason}
    (hreason : reassignmentReason q predecessor.leaseId = .ok reason)
    (hunexpired : ¬(reason = .activeLeaseSuperseded ∧ e.decisionTime ≥ predecessor.expiresAt)) :
    ∃ t, supersedePredecessor q.final e predecessor reason = .ok t := by
  unfold reassignmentReason at hreason
  unfold supersedePredecessor
  split_ifs at hreason ⊢ with hactive hexpired hcancelled
  · obtain rfl := Except.ok.inj hreason
    rw [refuseIf_bind_of_not (fun hlate => hunexpired ⟨rfl, hlate⟩),
      refuseIf_bind_of_not (not_not.mpr rfl)]
    exact ⟨_, rfl⟩
  · obtain rfl := Except.ok.inj hreason
    rw [refuseIf_bind_of_not (not_not.mpr rfl)]
    exact ⟨_, rfl⟩
  · obtain rfl := Except.ok.inj hreason
    rw [refuseIf_bind_of_not (not_not.mpr rfl)]
    exact ⟨_, rfl⟩
  · simp [reject] at hreason
  · simp [reject] at hreason

theorem applyVerificationLeaseReassigned_ok {s : Reduction} {e candidateEvent : EventV1}
    {lease predecessor : VerificationLeaseV1} {reason : ReassignmentReason}
    {trust : VerifierTrustStore} {snapshotId : Digest} {admission : AuthorityAdmissionV1}
    {grant : AuthorityGrantV1}
    (hpredecessor : s.verificationLeasesById.lookup predecessor.leaseId = some predecessor)
    (hlatest : s.latestVerificationLeaseByCandidate.lookup predecessor.candidateId =
      some predecessor.leaseId)
    (hlast : predecessor.leaseId ∉ s.verificationLeaseSuccessors)
    (hsame : lease.bindings = predecessor.bindings)
    (h : LeaseAdmitted s e lease candidateEvent admission grant)
    (hverifier : lease.verifierId ≠ predecessor.verifierId)
    (heligible : eligibleVerifier trust snapshotId lease = true)
    (hrevoked : lease.leaseId ∉ trust.revokedLeaseIds)
    (hnonce : lease.leaseNonce = P.leaseNonce (lease.nonceInputs e.prevDigest))
    (hsuper : ∃ t, supersedePredecessor s e predecessor reason = .ok t) :
    ∃ t, applyVerificationLeaseReassigned P s e lease predecessor.leaseId reason trust snapshotId =
      .ok t := by
  have hid : lease.candidateId = predecessor.candidateId := congrArg LeaseBindings.candidateId hsame
  have hbudget : ¬s.verificationLeaseEvents.length + 1 > grant.maxCandidates := by
    have := h.hcount
    omega
  have hnot : ¬(eligibleVerifier trust snapshotId lease = false ∨
      lease.leaseId ∈ trust.revokedLeaseIds) := by simp [heligible, hrevoked]
  obtain ⟨t, ht⟩ := hsuper
  rw [applyVerificationLeaseReassigned, bind_of_ok (orRefuse_eq_ok.mpr hpredecessor),
    refuseIf_bind_of_not (not_not.mpr hlatest), refuseIf_bind_of_not hlast,
    bind_of_ok (orRefuse_eq_ok.mpr h.hgrant), bind_of_ok (orRefuse_eq_ok.mpr h.hadmission),
    refuseIf_bind_of_not h.hauthority, bind_of_ok (orRefuse_eq_ok.mpr (hid ▸ h.hcandidate)),
    refuseIf_bind_of_not (not_not.mpr hsame), refuseIf_bind_of_not h.hbindings,
    refuseIf_bind_of_not (not_not.mpr h.hissued), refuseIf_bind_of_not (not_not.mpr h.hwindow),
    refuseIf_bind_of_not h.hproducer, refuseIf_bind_of_not hverifier, refuseIf_bind_of_not hnot,
    refuseIf_bind_of_not (not_not.mpr hnonce), refuseIf_bind_of_not h.hfresh,
    refuseIf_bind_of_not hbudget, bind_of_ok ht]
  exact ⟨_, rfl⟩

/-- The latest lease of a candidate has no successor. -/
theorem no_successor {first : EventV1} {events : List EventV1} {s : Reduction} {c i : Digest}
    (run : reduceLoop P first events = .ok s)
    (hlatest : s.latestVerificationLeaseByCandidate.lookup c = some i) :
    i ∉ s.verificationLeaseSuccessors := by
  obtain ⟨b, hb, hr⟩ := reduceLoop_follows run
  rw [hr.latest] at hlatest
  rw [← AList.lookup_isSome, hr.succ, (linked hb).last c i hlatest]
  simp

theorem draftReassign_drafted {r : ReassignRequest} {retained : List EventV1}
    {q : MissionProjection} {p : Proposal} (hW : LeaseWire P W)
    (h : reduceEvents P retained = .ok q)
    (hd : draftReassign P W r retained q = .ok (.propose p))
    (hfree : CollisionFree P W (retained ++ [p.event]))
    (hrevoked : ∀ lease trust id, p.event.leaseGrant? = some (lease, trust, id) →
      lease.leaseId ∉ trust.revokedLeaseIds) : Drafted P q p.event := by
  obtain ⟨predecessor, grant, admission, expiresAt, reason, key, lease, hdraft⟩ :=
    draftReassign_propose hd
  obtain ⟨hphase, hhead⟩ := assertAppendable_eq_ok hdraft.appendable
  refine .of_created h hdraft.created hhead (by rw [hphase]; exact Option.some_ne_none _) ?_
  have hnotback := assertHead_time h hhead
  obtain ⟨hnext, hverify⟩ := createEvent_eq_ok h hdraft.created
  have hpayload := (congrArg (fun e => e.payload) hnext).trans nextEvent_payload
  have hleaseGrant : p.event.leaseGrant? = some (lease, r.verifierTrustStore,
      P.trustSnapshotId r.verifierTrustStore) := by
    rw [hnext]
    rfl
  have hevidence := (verify_leaseGrant hverify hleaseGrant).2
  obtain ⟨⟨hgrant, hadmission, hstart⟩, hauthorized⟩ :=
    recoveryAuthority_eq_ok h hdraft.authority
  obtain ⟨hlookup, hid, hmem⟩ := leaseById_eq_ok h hdraft.found
  rw [← hid] at hlookup
  obtain ⟨first, rest, rfl, -, run⟩ := reduceEvents_eq_ok h
  obtain ⟨⟨hm, ha, ht⟩, hproducer, hcandidate⟩ := createdLease_identities run hmem
  obtain ⟨x, hx, hxunit⟩ := candidateEvent_of_mem run hcandidate
  have hcreated : p.event.createdLease? = some lease := by rw [hnext]; rfl
  have hfresh := fresh_lease hW h hfree hverify hcreated
    (by rw [hnext]; exact (reduceLoop_positioned run).prev)
  obtain ⟨u, hu, hle⟩ := createdLease_issuedAt run hmem
  obtain ⟨id, hlease⟩ := hdraft.derived
  have hdeadline : expiresAt ≤ grantDeadline grant admission := by
    rw [hdraft.deadline]
    exact min_le_left _ _
  have hsame : lease.bindings = predecessor.bindings := by
    rw [hlease]
    rfl
  have hadmitted : LeaseAdmitted q.final p.event lease x admission grant := by
    refine ⟨hgrant, hadmission, hauthorized, ?_, ?_, hevidence.issued, ?_, hevidence.producer,
      hfresh, hdraft.budget⟩
    · rw [hlease]
      exact hx
    · rw [hlease]
      simp [Reduction.foreignLease, leaseOfInputs, successorInputs, VerificationLeaseV1.bindings,
        hm, ha, ht, hproducer, hxunit]
    · rw [hlease]
      exact ⟨(hstart u hu).trans (hnotback u hu), hdraft.window, hdeadline⟩
  have hverifier : lease.verifierId ≠ predecessor.verifierId := by
    rw [hlease]
    exact hdraft.different
  have htime : p.event.decisionTime = r.decisionTime := by rw [hnext]; rfl
  obtain ⟨t, hsuper⟩ := supersedePredecessor_ok (e := p.event) hdraft.disposition
    (by rw [htime]; exact hdraft.unexpired)
  simp only [applyPayload, hpayload]
  exact applyVerificationLeaseReassigned_ok hlookup hdraft.latest (no_successor run hdraft.latest)
    hsame hadmitted hverifier hevidence.eligible (hrevoked _ _ _ hleaseGrant) hevidence.nonce
    ⟨t, hsuper⟩

end Etzio
