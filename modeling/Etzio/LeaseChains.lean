import Etzio.Dispositions

/-!
# Receipts and chains of leases

What an accepted stream says about the leases of one candidate, read off the events
themselves. `receipt_admitted_once` : a candidate's receipt is admitted at most once, for
its active latest lease, after one creation and one resolution of that lease, and ends the
candidate's lease events. `lease_chain` : the candidate's leases form one chain of the
successor map, with constant work bindings and changing verifiers.
-/

open CheckedRun LeaseBook

namespace Etzio

variable {P : Primitives}

/-! ## Receipts -/

/-- The stream creates lease `i` for candidate `c`. -/
def leaseOf (events : List EventV1) (c i : Digest) : Prop :=
  ∃ lease ∈ createdLeases events, lease.leaseId = i ∧ lease.candidateId = c

/-- The event issues, reassigns, expires, cancels or resolves a lease of candidate `c`. -/
def EventV1.movesLeaseOf (events : List EventV1) (c : Digest) (e : EventV1) : Prop :=
  match e.payload with
  | .verificationLeaseIssued lease _ _ => lease.candidateId = c
  | .verificationLeaseReassigned lease predecessorId _ _ _ =>
    lease.candidateId = c ∨ leaseOf events c predecessorId
  | .verificationLeaseExpired leaseId => leaseOf events c leaseId
  | .verificationLeaseCancelled _ leaseId => leaseOf events c leaseId
  | .verificationArtifactsResolved r => leaseOf events c r.verificationLeaseId
  | _ => False

theorem job_eq_some_iff {events : List EventV1} {b : Book Digest Digest}
    (hb : Steps (leaseMoves events) .empty b) {c i : Digest} :
    b.job i = some c ↔ leaseOf events c i := by
  rw [(known hb).job, opened_leaseMoves, List.mem_map]
  constructor
  · rintro ⟨lease, hmem, heq⟩
    obtain ⟨rfl, rfl⟩ := Prod.mk.inj heq
    exact ⟨lease, hmem, rfl, rfl⟩
  · rintro ⟨lease, hmem, rfl, rfl⟩
    exact ⟨lease, hmem, rfl⟩

theorem leaseOf.append {pre : List EventV1} {c i : Digest} (h : leaseOf pre c i)
    (post : List EventV1) : leaseOf (pre ++ post) c i := by
  obtain ⟨lease, hmem, hi, hc⟩ := h
  exact ⟨lease, by simp only [createdLeases, List.filterMap_append] at hmem ⊢; simp [hmem], hi, hc⟩

/-- A lease the loop knows was created by the stream. -/
theorem leaseOf_of_lookup {first : EventV1} {h : List EventV1} {s : Reduction} {i : Digest}
    {lease : VerificationLeaseV1} (run : reduceLoop P first h = .ok s)
    (hlease : s.verificationLeasesById.lookup i = some lease) :
    leaseOf h lease.candidateId i := by
  obtain ⟨b, hb, hr⟩ := reduceLoop_follows run
  exact (job_eq_some_iff hb).mp (by simp [hr.job, hlease])

/-- An event that moves a lease of `c` makes a book move of job `c`. -/
theorem jobIn_of_movesLeaseOf {events : List EventV1} {b : Book Digest Digest}
    (hb : Steps (leaseMoves events) .empty b) {c : Digest} {e : EventV1} (he : e ∈ events)
    (hmoves : e.movesLeaseOf events c) : ∃ m, e.leaseMove = some m ∧ m.jobIn b = some c := by
  unfold EventV1.movesLeaseOf at hmoves
  split at hmoves
  · rename_i hp
    simp only [EventV1.leaseMove, hp]
    exact ⟨_, rfl, congrArg some hmoves⟩
  · rename_i lease predecessorId reason trust snapshotId hp
    simp only [EventV1.leaseMove, hp]
    refine ⟨_, rfl, ?_⟩
    rcases hmoves with hc | hpred
    · exact congrArg some hc
    · have hmem : .reassign lease.candidateId predecessorId lease.leaseId ∈ leaseMoves events :=
        List.mem_filterMap.mpr ⟨e, he, by simp only [EventV1.leaseMove, hp]⟩
      exact (Steps.reassign_job hb hmem).symm.trans ((job_eq_some_iff hb).mpr hpred)
  · rename_i hp
    simp only [EventV1.leaseMove, hp]
    exact ⟨_, rfl, (job_eq_some_iff hb).mpr hmoves⟩
  · rename_i hp
    simp only [EventV1.leaseMove, hp]
    exact ⟨_, rfl, (job_eq_some_iff hb).mpr hmoves⟩
  · rename_i hp
    simp only [EventV1.leaseMove, hp]
    exact ⟨_, rfl, (job_eq_some_iff hb).mpr hmoves⟩
  · exact hmoves.elim

theorem leaseMove_of_receipt {e : EventV1} {r : VerifierReceiptV1} (h : e.receipt? = some r) :
    e.leaseMove = some (.consume r.leaseId) := by
  unfold EventV1.receipt? at h
  split at h
  · rename_i hp
    obtain rfl := Option.some.inj h
    simp only [EventV1.leaseMove, hp]
  · simp at h

/-- What the loop checked when it admitted a receipt. -/
theorem step_receipt {s s' : Reduction} {e : EventV1} {r : VerifierReceiptV1}
    (hstep : step P s e = .ok s') (hr : e.receipt? = some r) :
    ∃ lease, s.verificationLeasesById.lookup r.leaseId = some lease ∧
      lease.leaseId = r.leaseId ∧ lease.candidateId = r.candidateId ∧
      r.leaseId ∈ s.activeVerificationLeaseIds ∧
      s.latestVerificationLeaseByCandidate.lookup r.candidateId = some r.leaseId ∧
      lease.issuedAt ≤ e.decisionTime ∧ e.decisionTime < lease.expiresAt := by
  obtain ⟨-, phase, t, -, hturn, -⟩ := step_turn hstep
  unfold EventV1.receipt? at hr
  split at hr
  · rename_i hp
    obtain rfl := Option.some.inj hr
    cases hturn with
    | receiptAdmitted hp' hlease hfresh hactive hlatest hresolution hnames hcandidate hwindow =>
      obtain ⟨rfl, rfl, rfl, rfl, rfl⟩ := Payload.verifierReceiptAdmitted.inj (hp.symm.trans hp')
      rw [← hnames] at hactive
      rw [← hnames, ← hcandidate] at hlatest
      exact ⟨_, hlease, hnames.symm, hcandidate.symm, hactive, hlatest, hwindow⟩
    | stopped hp' => rcases hp' with h | h | h | h <;> simp [hp] at h
    | _ => simp_all
  · simp at hr

/-- A list has at most one element with `p` when none follows another. -/
theorem countP_le_one {α : Type} {p : α → Bool} {l : List α}
    (h : ∀ pre a post, l = pre ++ a :: post → p a = true → ∀ x ∈ post, p x = false) :
    l.countP p ≤ 1 := by
  induction l with
  | nil => simp
  | cons a l ih =>
    have hl := ih fun pre x post heq => h (a :: pre) x post (by simp [heq])
    by_cases ha : p a = true
    · have hzero : l.countP p = 0 := by
        rw [List.countP_eq_zero]
        intro x hx
        simp [h [] a l rfl ha x hx]
      simp [ha, hzero]
    · simpa [ha] using hl

/-- The events after an admitted receipt move no lease of its candidate and admit no receipt
for it. -/
theorem after_receipt {first e : EventV1} {pre post : List EventV1} {s : Reduction}
    {r : VerifierReceiptV1} (run : reduceLoop P first (pre ++ e :: post) = .ok s)
    (hr : e.receipt? = some r) :
    ((createdLeases pre).map VerificationLeaseV1.leaseId).count r.leaseId = 1 ∧
      (resolvedLeases pre).count r.leaseId = 1 ∧
      (∀ x ∈ post, ¬x.movesLeaseOf (pre ++ e :: post) r.candidateId) ∧
      ∀ x ∈ post, ∀ r', x.receipt? = some r' → r'.candidateId ≠ r.candidateId := by
  obtain ⟨b, hb, hrep⟩ := reduceLoop_follows run
  obtain ⟨m, m', hm, hstep, hpost⟩ := foldlM_split run
  obtain ⟨lease, hlease, hid, hcand, -⟩ := step_receipt hstep hr
  have hmoves : leaseMoves (pre ++ e :: post) =
      leaseMoves pre ++ .consume r.leaseId :: leaseMoves post := by
    simp [leaseMoves, leaseMove_of_receipt hr]
  rw [hmoves] at hb
  obtain ⟨k, hjob, hopened, hresolved, hoff, -⟩ := hb.consume_inv
  rw [← hmoves] at hb
  -- The job of the consumed lease is the receipt's candidate.
  have hof : leaseOf (pre ++ e :: post) r.candidateId r.leaseId :=
    (hcand ▸ leaseOf_of_lookup hm hlease).append _
  obtain rfl : r.candidateId = k :=
    Option.some.inj (((job_eq_some_iff hb).mpr hof).symm.trans hjob)
  have hin : ∀ x ∈ post, x ∈ pre ++ e :: post := fun x hx => by simp [hx]
  refine ⟨by rw [← leases_leaseMoves]; exact hopened,
    by rw [← count_resolve_leaseMoves]; exact hresolved, ?_, ?_⟩
  · intro x hx hmove
    obtain ⟨mv, hmv, hmvjob⟩ := jobIn_of_movesLeaseOf hb (hin x hx) hmove
    exact hoff mv (List.mem_filterMap.mpr ⟨x, hx, hmv⟩) hmvjob
  · intro x hx r' hr' hsame
    obtain ⟨pre', post', rfl⟩ := List.append_of_mem hx
    have hrun' : reduceLoop P first ((pre ++ e :: pre') ++ x :: post') = .ok s := by
      simpa using run
    obtain ⟨n, n', hn, hstep', -⟩ := foldlM_split hrun'
    obtain ⟨lease', hlease', -, hcand', -⟩ := step_receipt hstep' hr'
    have hof' := (leaseOf_of_lookup hn hlease').append (x :: post')
    rw [hcand', hsame, List.append_assoc, List.cons_append] at hof'
    have hmv : .consume r'.leaseId ∈ leaseMoves (pre' ++ x :: post') :=
      List.mem_filterMap.mpr ⟨x, by simp, leaseMove_of_receipt hr'⟩
    exact hoff _ hmv ((job_eq_some_iff hb).mpr hof')

/-- In an accepted stream a candidate has at most one receipt. It is admitted for the
candidate's active latest lease, which one earlier event created and one earlier event
resolved, and no later event moves a lease of the candidate. -/
theorem receipt_admitted_once {events : List EventV1} {q : MissionProjection}
    (h : reduceEvents P events = .ok q) :
    (∀ c, (events.countP fun e => e.receipt?.map VerifierReceiptV1.candidateId = some c) ≤ 1) ∧
    ∀ pre e post r, events = pre ++ e :: post → e.receipt? = some r →
      leaseOf pre r.candidateId r.leaseId ∧
      ((createdLeases pre).map VerificationLeaseV1.leaseId).count r.leaseId = 1 ∧
      (resolvedLeases pre).count r.leaseId = 1 ∧
      (∃ first m, events.head? = some first ∧ reduceLoop P first pre = .ok m ∧
        m.latestVerificationLeaseByCandidate.lookup r.candidateId = some r.leaseId ∧
        r.leaseId ∈ m.activeVerificationLeaseIds) ∧
      ∀ x ∈ post, ¬x.movesLeaseOf events r.candidateId := by
  obtain ⟨first, rest, hfirst, -, run⟩ := reduceEvents_eq_ok h
  constructor
  · intro c
    refine countP_le_one fun pre e post heq he x hx => ?_
    obtain ⟨r, hr, hc⟩ := Option.map_eq_some_iff.mp (of_decide_eq_true he)
    subst heq
    obtain ⟨-, -, -, hnone⟩ := after_receipt run hr
    rw [decide_eq_false_iff_not]
    intro hx'
    obtain ⟨r', hr', hc'⟩ := Option.map_eq_some_iff.mp hx'
    exact hnone x hx r' hr' (hc'.trans hc.symm)
  · rintro pre e post r rfl hr
    obtain ⟨hcreated, hresolved, hoff, -⟩ := after_receipt run hr
    obtain ⟨m, m', hm, hstep, -⟩ := foldlM_split run
    obtain ⟨lease, hlease, hid, hcand, hactive, hlatest, -⟩ := step_receipt hstep hr
    have hof : leaseOf pre r.candidateId r.leaseId := hcand ▸ leaseOf_of_lookup hm hlease
    exact ⟨hof, hcreated, hresolved, ⟨first, m, by rw [hfirst]; rfl, hm, hlatest, hactive⟩, hoff⟩

/-- The receipt of the sample mission is admitted for its reassigned lease. -/
theorem receipt_admitted_once_sample :
    ∃ q, reduceEvents samplePrimitives sampleMission = .ok q ∧
      (resolvedLeases (sampleMission.take 8)).count 402 = 1 ∧
      ∀ x ∈ sampleMission.drop 9, ¬x.movesLeaseOf sampleMission 108 := by
  obtain ⟨q, hq⟩ := sampleMission_accepted
  obtain ⟨-, -, hresolved, -, hlater⟩ := (receipt_admitted_once hq).2 (sampleMission.take 8)
    (sampleMission.get ⟨8, by decide⟩) (sampleMission.drop 9) sampleReceipt rfl rfl
  exact ⟨q, hq, hresolved, hlater⟩

/-! ## Chains -/

/-- The events that create a lease of a candidate, in stream order. -/
def leaseCreations (c : Digest) (h : List EventV1) : List EventV1 :=
  h.filter fun e => e.createdLease?.map VerificationLeaseV1.candidateId = some c

/-- The leases of a candidate, in stream order. -/
def leasesOf (c : Digest) (h : List EventV1) : List VerificationLeaseV1 :=
  createdLeases (leaseCreations c h)

theorem leasesOf_eq_filter (c : Digest) (h : List EventV1) :
    leasesOf c h = (createdLeases h).filter fun l => l.candidateId = c := by
  simp only [leasesOf, leaseCreations, createdLeases, List.filterMap_filter, List.filter_filterMap]
  congr 1
  funext e
  cases e.createdLease? <;> simp [Option.filter]

/-- The moves of the events that create a candidate's leases are its openings. -/
theorem leaseMoves_leaseCreations (c : Digest) (h : List EventV1) :
    leaseMoves (leaseCreations c h) = openings c (leaseMoves h) := by
  simp only [leaseCreations, leaseMoves, openings, List.filterMap_filter, List.filter_filterMap]
  congr 1
  funext e
  have hopen := leaseMove_opened e
  cases hm : e.leaseMove with
  | none => simp
  | some m =>
    have hc : e.createdLease?.map VerificationLeaseV1.candidateId = m.opened.map Prod.fst := by
      rw [hm, Option.bind_some] at hopen
      rw [hopen, Option.map_map]
      rfl
    simp [Option.filter, hc]

theorem kind_of_leaseMove {e : EventV1} :
    (∀ k i, e.leaseMove = some (.issue k i) → e.kind = .verificationLeaseIssued) ∧
    ∀ k p i, e.leaseMove = some (.reassign k p i) → e.kind = .verificationLeaseReassigned := by
  unfold EventV1.leaseMove EventBody.kind
  split <;> simp_all [Payload.kind]

/-- What the loop checked about the leases it retains. -/
structure LeaseRecords (h : List EventV1) (s : Reduction) : Prop where
  lookup : ∀ i l, s.verificationLeasesById.lookup i = some l ↔
    l ∈ createdLeases h ∧ l.leaseId = i
  producer : ∀ l ∈ createdLeases h, l.verifierId ≠ l.candidateProducerId ∧
    ∃ x ∈ h, x.candidate?.map StaticCandidateV1.candidateId = some l.candidateId ∧
      x.unit.text = l.candidateProducerId
  succ : ∀ p i, s.verificationLeaseSuccessors.lookup p = some i → ∃ lp li,
    s.verificationLeasesById.lookup p = some lp ∧ s.verificationLeasesById.lookup i = some li ∧
      li.bindings = lp.bindings ∧ li.verifierId ≠ lp.verifierId

theorem createdLeases_snoc (h : List EventV1) (e : EventV1) :
    createdLeases (h ++ [e]) = createdLeases h ++ e.createdLease?.toList := by
  cases he : e.createdLease? <;> simp [createdLeases, he]

theorem LeaseRecords.keep {h : List EventV1} {s t : Reduction} {e : EventV1}
    (ih : LeaseRecords h s) (he : e.createdLease? = none)
    (hleases : t.verificationLeasesById = s.verificationLeasesById)
    (hsucc : t.verificationLeaseSuccessors = s.verificationLeaseSuccessors) :
    LeaseRecords (h ++ [e]) t where
  lookup i l := by simp [createdLeases_snoc, he, hleases, ih.lookup]
  producer l hl := by
    obtain ⟨hne, x, hx, hcand⟩ := ih.producer l (by simpa [createdLeases_snoc, he] using hl)
    exact ⟨hne, x, List.mem_append_left _ hx, hcand⟩
  succ p i := by simpa [hleases, hsucc] using ih.succ p i

/-- A fresh lease, alone or as the successor of `predecessor`. -/
theorem LeaseRecords.add {h : List EventV1} {s t : Reduction} {e : EventV1}
    {lease : VerificationLeaseV1} (ih : LeaseRecords h s) (he : e.createdLease? = some lease)
    (hfresh : lease.leaseId ∉ s.verificationLeasesById)
    (hleases : t.verificationLeasesById = s.verificationLeasesById.insert lease.leaseId lease)
    (hproducer : lease.verifierId ≠ lease.candidateProducerId ∧
      ∃ x ∈ h, x.candidate?.map StaticCandidateV1.candidateId = some lease.candidateId ∧
        x.unit.text = lease.candidateProducerId)
    (hsucc : ∀ p i, t.verificationLeaseSuccessors.lookup p = some i →
      s.verificationLeaseSuccessors.lookup p = some i ∨ i = lease.leaseId ∧
        ∃ lp, s.verificationLeasesById.lookup p = some lp ∧ lease.bindings = lp.bindings ∧
          lease.verifierId ≠ lp.verifierId) : LeaseRecords (h ++ [e]) t := by
  have hne : ∀ i l, s.verificationLeasesById.lookup i = some l → i ≠ lease.leaseId := by
    rintro i l hl rfl
    exact hfresh (AList.lookup_isSome.mp (by rw [hl]; rfl))
  have hkeep : ∀ i l, s.verificationLeasesById.lookup i = some l →
      t.verificationLeasesById.lookup i = some l := by
    intro i l hl
    rw [hleases, Dict.lookup_insert, if_neg (hne i l hl), hl]
  refine ⟨fun i l => ?_, fun l hl => ?_, fun p i hp => ?_⟩
  · rw [hleases, Dict.lookup_insert]
    simp only [createdLeases_snoc, he, Option.toList_some, List.mem_append, List.mem_singleton]
    split_ifs with hi
    · constructor
      · intro heq
        obtain rfl := Option.some.inj heq
        exact ⟨Or.inr rfl, hi.symm⟩
      · rintro ⟨hl | rfl, hid⟩
        · exact absurd hi (hne i l ((ih.lookup i l).mpr ⟨hl, hid⟩))
        · rfl
    · rw [ih.lookup]
      constructor
      · rintro ⟨hl, hid⟩
        exact ⟨Or.inl hl, hid⟩
      · rintro ⟨hl | rfl, hid⟩
        · exact ⟨hl, hid⟩
        · exact absurd hid.symm hi
  · have hold : l ∈ createdLeases h ∨ l = lease := by
      simpa [createdLeases_snoc, he] using hl
    rcases hold with hl | rfl
    · obtain ⟨hv, x, hx, hcand⟩ := ih.producer l hl
      exact ⟨hv, x, List.mem_append_left _ hx, hcand⟩
    · obtain ⟨hv, x, hx, hcand⟩ := hproducer
      exact ⟨hv, x, List.mem_append_left _ hx, hcand⟩
  · rcases hsucc p i hp with hp | ⟨rfl, lp, hlp, hsame, hv⟩
    · obtain ⟨lp, li, hlp, hli, hsame⟩ := ih.succ p i hp
      exact ⟨lp, li, hkeep p lp hlp, hkeep i li hli, hsame⟩
    · refine ⟨lp, lease, hkeep p lp hlp, ?_, hsame, hv⟩
      rw [hleases, Dict.lookup_insert, if_pos rfl]

/-- The candidate of an admitted lease was recorded by the event that names its producer. -/
theorem LeaseAdmitted.producer {h : List EventV1} {s : Reduction} {e candidateEvent : EventV1}
    {lease : VerificationLeaseV1} {admission : AuthorityAdmissionV1} {grant : AuthorityGrantV1}
    (hrecords : Records h s) (hl : LeaseAdmitted s e lease candidateEvent admission grant) :
    lease.verifierId ≠ lease.candidateProducerId ∧
      ∃ x ∈ h, x.candidate?.map StaticCandidateV1.candidateId = some lease.candidateId ∧
        x.unit.text = lease.candidateProducerId := by
  obtain ⟨hmem, k, hk, hid⟩ := hrecords.candidateEvents _ _ hl.hcandidate
  have hbindings := hl.hbindings
  simp only [Reduction.foreignLease, not_or, not_not] at hbindings
  exact ⟨hl.hproducer.symm, candidateEvent, hmem, by simp [hk, hid], hbindings.2.2.2.symm⟩

theorem reduceLoop_leaseRecords {first : EventV1} {events : List EventV1} {s : Reduction}
    (run : reduceLoop P first events = .ok s) : LeaseRecords events s := by
  refine foldlM_invariant LeaseRecords ?_ ?_ run
  · constructor <;> simp [Reduction.initial, createdLeases]
  · intro h s e s' hrun ih hstep
    obtain ⟨-, phase, t, -, hturn, rfl⟩ := step_turn hstep
    have hrecords := reduceLoop_records hrun
    obtain ⟨b, hb, hr⟩ := reduceLoop_follows hrun
    have hfresh : ∀ i, i ∉ s.verificationLeaseIds → i ∉ s.verificationLeasesById := by
      intro i hi hmem
      obtain ⟨l, hl⟩ := Option.isSome_iff_exists.mp (AList.lookup_isSome.mpr hmem)
      have hjob : b.job i = some l.candidateId := by simp [hr.job, hl]
      exact ((known hb).status i).mp (hr.fresh hi) ((known hb).mem_leases hjob)
    cases hturn with
    | leaseIssued hp hlease hnever =>
      exact ih.add (by simp only [EventV1.createdLease?, hp]) (hfresh _ hlease.hfresh) rfl
        (hlease.producer hrecords) fun p i hp => Or.inl hp
    | @leaseReassigned lease _ _ _ _ predecessor _ _ _ u hp hpredecessor hlatest hlast hsame hlease
        hverifier hsuper =>
      have hid := hr.keyed _ _ hpredecessor
      have hleases : u.verificationLeasesById = s.verificationLeasesById := by
        cases hsuper <;> rfl
      have hsucc : u.verificationLeaseSuccessors = s.verificationLeaseSuccessors := by
        cases hsuper <;> rfl
      refine ih.add (by simp only [EventV1.createdLease?, hp]) (hfresh _ hlease.hfresh)
        (by rw [← hleases]; rfl) (hlease.producer hrecords) fun p i hpi => ?_
      have hpi' : AList.lookup p (u.verificationLeaseSuccessors.insert predecessor.leaseId
        lease.leaseId) = some i := hpi
      rw [Dict.lookup_insert, hsucc] at hpi'
      split_ifs at hpi' with hpp
      · refine Or.inr ⟨(Option.some.inj hpi').symm, predecessor, ?_, hsame, hverifier⟩
        rw [hpp, hid]
        exact hpredecessor
      · exact Or.inl hpi'
    | stopped hp =>
      exact ih.keep (by rcases hp with hp | hp | hp | hp <;> simp only [EventV1.createdLease?, hp])
        rfl rfl
    | _ => exact ih.keep (e := e) (by simp only [EventV1.createdLease?, *]) rfl rfl

/-- The first lease of a candidate is issued and every later one is reassigned. -/
theorem leaseCreations_kinds {events : List EventV1} {b : Book Digest Digest}
    (hb : Steps (leaseMoves events) .empty b) {c : Digest} {x : EventV1} {xs : List EventV1}
    (hx : leaseCreations c events = x :: xs) :
    x.kind = .verificationLeaseIssued ∧ ∀ y ∈ xs, y.kind = .verificationLeaseReassigned := by
  have hmove : ∀ y ∈ leaseCreations c events, ∃ m, y.leaseMove = some m := by
    intro y hy
    have hcreated := (List.mem_filter.mp hy).2
    have hopen := leaseMove_opened y
    cases hm : y.leaseMove with
    | none =>
      rw [hm, Option.bind_none] at hopen
      have hnone : y.createdLease? = none := Option.map_eq_none_iff.mp hopen.symm
      simp [hnone] at hcreated
    | some m => exact ⟨m, rfl⟩
  obtain ⟨m, hm⟩ := hmove x (by simp [hx])
  have hopenings : openings c (leaseMoves events) = m :: leaseMoves xs := by
    rw [← leaseMoves_leaseCreations, hx]
    simp [leaseMoves, hm]
  rcases (linked hb).first c with ⟨hnil, -⟩ | ⟨i, rest, heq, -, hrest⟩
  · simp [hnil] at hopenings
  · obtain ⟨rfl, rfl⟩ := List.cons.inj (heq.symm.trans hopenings)
    refine ⟨kind_of_leaseMove.1 _ _ hm, fun y hy => ?_⟩
    obtain ⟨m', hm'⟩ := hmove y (by simp [hx, hy])
    obtain ⟨p, j, rfl⟩ := hrest m' (List.mem_filterMap.mpr ⟨y, hy, hm'⟩)
    exact kind_of_leaseMove.2 _ _ _ hm'

/-- In an accepted stream the leases of a candidate form one chain of the successor map :
the first issued, the others reassigned, the last the candidate's latest, with constant work
bindings, no verifier twice in a row and none the candidate's producer. The successor map
joins only leases of one candidate, is injective and has no cycle. -/
theorem lease_chain {events : List EventV1} {q : MissionProjection}
    (h : reduceEvents P events = .ok q) :
    (∀ c,
      ((leasesOf c events).map VerificationLeaseV1.leaseId).Nodup ∧
      (leasesOf c events).IsChain (fun a b =>
        q.final.verificationLeaseSuccessors.lookup a.leaseId = some b.leaseId ∧
          b.bindings = a.bindings ∧ b.verifierId ≠ a.verifierId) ∧
      (leasesOf c events).getLast?.map VerificationLeaseV1.leaseId =
        q.final.latestVerificationLeaseByCandidate.lookup c ∧
      (∀ l ∈ (leasesOf c events).getLast?,
        l.leaseId ∉ q.final.verificationLeaseSuccessors) ∧
      (∀ x xs, leaseCreations c events = x :: xs → x.kind = .verificationLeaseIssued ∧
        ∀ y ∈ xs, y.kind = .verificationLeaseReassigned) ∧
      (∀ l ∈ leasesOf c events, ∀ l' ∈ leasesOf c events, l.bindings = l'.bindings) ∧
      ∀ l ∈ leasesOf c events, l.verifierId ≠ l.candidateProducerId ∧
        ∃ x ∈ events, x.candidate?.map StaticCandidateV1.candidateId = some c ∧
          x.unit.text = l.candidateProducerId) ∧
    (∀ p i, q.final.verificationLeaseSuccessors.lookup p = some i →
      ∃ c, leaseOf events c p ∧ leaseOf events c i) ∧
    (∀ p p' i, q.final.verificationLeaseSuccessors.lookup p = some i →
      q.final.verificationLeaseSuccessors.lookup p' = some i → p = p') ∧
    ∀ i, ¬Relation.TransGen
      (fun p j => q.final.verificationLeaseSuccessors.lookup p = some j) i i := by
  obtain ⟨first, rest, -, -, run⟩ := reduceEvents_eq_ok h
  obtain ⟨b, hb, hr⟩ := reduceLoop_follows run
  have hrec := reduceLoop_leaseRecords run
  have hlink := linked hb
  have hsucc : ∀ i, q.final.verificationLeaseSuccessors.lookup i = b.succ i := hr.succ
  simp only [hsucc]
  refine ⟨fun c => ?_, ?_, fun p p' i => hlink.injective p p' i, succ_acyclic hb⟩
  · have hchain : chain c (leaseMoves events) =
        (leasesOf c events).map VerificationLeaseV1.leaseId := by
      rw [chain_leaseMoves, leasesOf_eq_filter]
    have hmem : ∀ l ∈ leasesOf c events, l ∈ createdLeases events ∧ l.candidateId = c := by
      intro l hl
      simpa [leasesOf_eq_filter] using hl
    have hlinks : (leasesOf c events).IsChain fun x y =>
        b.succ x.leaseId = some y.leaseId ∧ y.bindings = x.bindings ∧
          y.verifierId ≠ x.verifierId := by
      have hids := hlink.linked c
      rw [hchain, List.isChain_map] at hids
      refine hids.imp_of_mem_imp fun x y hx hy hxy => ⟨hxy, ?_⟩
      obtain ⟨lp, li, hlp, hli, hsame⟩ := hrec.succ _ _ ((hsucc _).trans hxy)
      obtain rfl : lp = x :=
        Option.some.inj (hlp.symm.trans ((hrec.lookup _ x).mpr ⟨(hmem x hx).1, rfl⟩))
      obtain rfl : li = y :=
        Option.some.inj (hli.symm.trans ((hrec.lookup _ y).mpr ⟨(hmem y hy).1, rfl⟩))
      exact hsame
    have hlast : (leasesOf c events).getLast?.map VerificationLeaseV1.leaseId = b.latest c := by
      rw [hlink.latest, hchain, List.getLast?_map]
    refine ⟨?_, hlinks, by rw [hr.latest, hlast], ?_, fun x xs => leaseCreations_kinds hb, ?_, ?_⟩
    · have hnodup := (known hb).nodup
      rw [leases_leaseMoves] at hnodup
      rw [leasesOf_eq_filter]
      exact hnodup.sublist (List.filter_sublist.map _)
    · intro l hl hmem
      have hl' : b.latest c = some l.leaseId := by
        rw [← hlast, Option.mem_def.mp hl]
        rfl
      obtain ⟨i, hi⟩ := Option.isSome_iff_exists.mp (AList.lookup_isSome.mpr hmem)
      have hnone := hlink.last c _ hl'
      rw [← hsucc, hi] at hnone
      simp at hnone
    · have hpair : (leasesOf c events).Pairwise fun x y => x.bindings = y.bindings := by
        have : IsTrans VerificationLeaseV1 fun x y => x.bindings = y.bindings :=
          ⟨fun x y z => Eq.trans⟩
        exact List.isChain_iff_pairwise.mp (hlinks.imp fun x y hxy => hxy.2.1.symm)
      have : Std.Symm fun x y : VerificationLeaseV1 => x.bindings = y.bindings :=
        ⟨fun x y => Eq.symm⟩
      intro l hl l' hl'
      exact List.Pairwise.forall_of_forall (R := fun x y => x.bindings = y.bindings)
        (fun x _ => rfl) hpair hl hl'
    · intro l hl
      obtain ⟨hcreated, rfl⟩ := hmem l hl
      exact hrec.producer l hcreated
  · intro p i hp
    obtain ⟨c, hpc, hic⟩ := hlink.same p i hp
    exact ⟨c, (job_eq_some_iff hb).mp (((known hb).job p c).mpr hpc),
      (job_eq_some_iff hb).mp (((known hb).job i c).mpr hic)⟩

/-- The two leases of the sample candidate form its chain. -/
theorem lease_chain_sample :
    ∃ q, reduceEvents samplePrimitives sampleMission = .ok q ∧
      (leasesOf 108 sampleMission).map VerificationLeaseV1.leaseId = [401, 402] ∧
      q.final.latestVerificationLeaseByCandidate.lookup 108 = some 402 := by
  obtain ⟨q, hq⟩ := sampleMission_accepted
  obtain ⟨-, -, hlast, -⟩ := (lease_chain hq).1 108
  exact ⟨q, hq, rfl, hlast.symm⟩

end Etzio
