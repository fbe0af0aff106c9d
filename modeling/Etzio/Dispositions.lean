import Etzio.LeaseRefinement

/-!
# Dispositions of leases and candidates

After every run of the loop each verification lease has exactly one of the five
dispositions and each recorded candidate is in exactly one of the five classes
(`Represents.existsUnique_status`, `reduceLoop_partitions`). The reducer's closing checks compare
unions and cardinalities; `partition_checks` shows that they pass on any exact partition,
so they never raise, and acceptance is prefix-closed.
-/

open CheckedRun LeaseBook

namespace Etzio

variable {P : Primitives}

/-! ## Exact partitions -/

section Partition

variable {ι α : Type} [DecidableEq α]

theorem mem_foldr_union {parts : List (Finset α)} {x : α} :
    x ∈ parts.foldr (· ∪ ·) ∅ ↔ ∃ p ∈ parts, x ∈ p := by
  induction parts with
  | nil => simp
  | cons p parts ih => simp [ih]

theorem sum_card_of_disjoint {parts : List (Finset α)} (h : parts.Pairwise Disjoint) :
    (parts.map Finset.card).sum = (parts.foldr (· ∪ ·) ∅).card := by
  induction parts with
  | nil => simp
  | cons p parts ih =>
    obtain ⟨hp, hparts⟩ := List.pairwise_cons.mp h
    have hdisj : Disjoint p (parts.foldr (· ∪ ·) ∅) := by
      rw [Finset.disjoint_left]
      intro x hx hmem
      obtain ⟨q, hq, hxq⟩ := mem_foldr_union.mp hmem
      exact Finset.disjoint_left.mp (hp q hq) hx hxq
    rw [List.map_cons, List.sum_cons, List.foldr_cons, Finset.card_union_of_disjoint hdisj,
      ih hparts]

/-- The union and the cardinalities of parts that hold every element of the whole exactly
once. -/
theorem partition_checks (f : ι → Finset α) (index : List ι) (whole : Finset α)
    (hnodup : index.Nodup) (hcover : ∀ x, x ∈ whole ↔ ∃ i ∈ index, x ∈ f i)
    (hunique : ∀ x i j, x ∈ f i → x ∈ f j → i = j) :
    (index.map f).foldr (· ∪ ·) ∅ = whole ∧ ((index.map f).map Finset.card).sum = whole.card := by
  have hunion : (index.map f).foldr (· ∪ ·) ∅ = whole := by
    ext x
    rw [mem_foldr_union, hcover]
    simp
  have hdisj : (index.map f).Pairwise Disjoint := by
    rw [List.pairwise_map]
    refine hnodup.imp fun {i j} hij => Finset.disjoint_left.mpr fun x hi hj => ?_
    exact hij (hunique x i j hi hj)
  exact ⟨hunion, by rw [sum_card_of_disjoint hdisj, hunion]⟩

end Partition

/-! ## Leases -/

/-- The statuses in the order of the closing check. -/
def leaseStatuses : List Status := [.active, .expired, .cancelled, .superseded, .consumed]

theorem mem_leaseStatuses (st : Status) : st ∈ leaseStatuses := by cases st <;> decide

/-- The closing check of the lease dispositions passes on every represented book. -/
theorem Represents.checkDispositions {s : Reduction} {b : Book Digest Digest}
    (hr : Represents s b) : checkDispositions s = .ok () := by
  obtain ⟨hunion, hcard⟩ := partition_checks s.leasesIn leaseStatuses s.verificationLeaseIds
    (by decide)
    (fun i => by
      rw [hr.ids, Option.ne_none_iff_exists']
      constructor
      · rintro ⟨st, hst⟩
        exact ⟨st, mem_leaseStatuses st, (hr.status st i).mpr hst⟩
      · rintro ⟨st, -, hst⟩
        exact ⟨st, (hr.status st i).mp hst⟩)
    (fun i st st' h h' => by
      rw [hr.status] at h h'
      exact Option.some.inj (h.symm.trans h'))
  simp only [Etzio.checkDispositions, refuseIf_eq_ok, not_or, not_not]
  exact ⟨hunion, hcard⟩

/-- A lease the book knows has exactly one disposition. -/
theorem Represents.existsUnique_status {s : Reduction} {b : Book Digest Digest} {i : Digest}
    (hr : Represents s b) (hi : i ∈ s.verificationLeaseIds) : ∃! st, i ∈ s.leasesIn st := by
  obtain ⟨st, hst⟩ := Option.ne_none_iff_exists'.mp ((hr.ids i).mp hi)
  refine ⟨st, (hr.status st i).mpr hst, fun st' hmem => ?_⟩
  have hst' : b.status i = some st' := (hr.status st' i).mp hmem
  exact Option.some.inj (hst'.symm.trans hst)

/-! ## Candidates -/

/-- The five classes of candidates. -/
inductive CandidateClass
  | active
  | receiptCovered
  | neverAssigned
  | latestExpired
  | latestCancelled
  deriving DecidableEq, Repr

/-- The part of a class. -/
def CandidatePartitions.part (p : CandidatePartitions) : CandidateClass → Finset Digest
  | .active => p.active
  | .receiptCovered => p.receiptCovered
  | .neverAssigned => p.neverAssigned
  | .latestExpired => p.latestExpired
  | .latestCancelled => p.latestCancelled

/-- The classes in the order of `_verification_candidate_partitions`. -/
def candidateClasses : List CandidateClass :=
  [.active, .receiptCovered, .neverAssigned, .latestExpired, .latestCancelled]

theorem mem_candidateClasses (k : CandidateClass) : k ∈ candidateClasses := by cases k <;> decide

/-- The class of a candidate whose latest lease has a status. -/
def classOf : Status → Option CandidateClass
  | .active => some .active
  | .consumed => some .receiptCovered
  | .expired => some .latestExpired
  | .cancelled => some .latestCancelled
  | .superseded => none

/-- The class of a candidate, from the book. -/
def candidateClass (b : Book Digest Digest) (c : Digest) : Option CandidateClass :=
  match b.latest c with
  | none => some .neverAssigned
  | some i => (b.status i).bind classOf

/-- A candidate belongs to a class by the disposition of its latest lease, if it has one. -/
def Reduction.InClass (s : Reduction) (k : CandidateClass) (c : Digest) : Prop :=
  match s.latestVerificationLeaseByCandidate.lookup c with
  | none => k = .neverAssigned
  | some i => ∃ st, i ∈ s.leasesIn st ∧ classOf st = some k

/-- The class of a candidate is the same from the reducer's variables. -/
theorem Represents.inClass_iff {s : Reduction} {b : Book Digest Digest} (hr : Represents s b)
    {k : CandidateClass} {c : Digest} : s.InClass k c ↔ candidateClass b c = some k := by
  rw [Reduction.InClass, candidateClass, hr.latest c]
  cases b.latest c with
  | none => exact ⟨fun h => congrArg some h.symm, fun h => (Option.some.inj h).symm⟩
  | some i => simp only [hr.status, Option.bind_eq_some_iff]

/-- One turn of the partition loop puts the candidate in the class of its latest lease. -/
theorem partitionStep_eq_ok {s : Reduction} {b : Book Digest Digest} (hr : Represents s b)
    (p : CandidatePartitions) (item : Σ _ : Digest, Digest) {st : Status}
    (hst : b.status item.2 = some st) (hlive : st ≠ .superseded) :
    ∃ q, partitionStep s.activeVerificationLeaseIds s.consumedVerificationLeaseIds
        s.expiredVerificationLeaseIds s.cancelledVerificationLeaseIds p item = .ok q ∧
      ∀ k c, c ∈ q.part k ↔ c ∈ p.part k ∨ c = item.1 ∧ classOf st = some k := by
  have hactive : item.2 ∈ s.activeVerificationLeaseIds ↔ st = .active := by
    rw [← Option.some_inj, ← hst]
    exact hr.status .active item.2
  have hexpired : item.2 ∈ s.expiredVerificationLeaseIds ↔ st = .expired := by
    rw [← Option.some_inj, ← hst]
    exact hr.status .expired item.2
  have hcancelled : item.2 ∈ s.cancelledVerificationLeaseIds ↔ st = .cancelled := by
    rw [← Option.some_inj, ← hst]
    exact hr.status .cancelled item.2
  have hconsumed : item.2 ∈ s.consumedVerificationLeaseIds ↔ st = .consumed := by
    rw [← Option.some_inj, ← hst]
    exact hr.status .consumed item.2
  have hcount : [decide (item.2 ∈ s.activeVerificationLeaseIds),
      decide (item.2 ∈ s.consumedVerificationLeaseIds),
      decide (item.2 ∈ s.expiredVerificationLeaseIds),
      decide (item.2 ∈ s.cancelledVerificationLeaseIds)].count true = 1 := by
    simp only [hactive, hexpired, hcancelled, hconsumed]
    cases st <;> first | decide | contradiction
  simp only [partitionStep, unit_bind_eq_ok, refuseIf_eq_ok, hcount, not_true_eq_false, ne_eq,
    not_false_eq_true, true_and]
  refine ⟨_, rfl, fun k c => ?_⟩
  simp only [hactive, hexpired, hconsumed]
  cases st <;> cases k <;> simp_all [CandidatePartitions.part, classOf, or_comm]

theorem partitionFold_eq_ok {s : Reduction} {b : Book Digest Digest} (hr : Represents s b)
    (items : List (Σ _ : Digest, Digest)) (p : CandidatePartitions)
    (hitems : ∀ x ∈ items, ∃ st, b.status x.2 = some st ∧ st ≠ .superseded) :
    ∃ q, items.foldlM (partitionStep s.activeVerificationLeaseIds s.consumedVerificationLeaseIds
        s.expiredVerificationLeaseIds s.cancelledVerificationLeaseIds) p = .ok q ∧
      ∀ k c, c ∈ q.part k ↔
        c ∈ p.part k ∨ ∃ x ∈ items, c = x.1 ∧ (b.status x.2).bind classOf = some k := by
  induction items generalizing p with
  | nil => exact ⟨p, rfl, by simp⟩
  | cons x items ih =>
    obtain ⟨st, hst, hlive⟩ := hitems x (by simp)
    obtain ⟨p', hp', hmem'⟩ := partitionStep_eq_ok hr p x hst hlive
    obtain ⟨q, hq, hmem⟩ := ih p' fun y hy => hitems y (by simp [hy])
    refine ⟨q, foldlM_cons_eq_ok.mpr ⟨p', hp', hq⟩, fun k c => ?_⟩
    rw [hmem, hmem', or_assoc]
    simp [hst]

/-- Every candidate with a lease was recorded. -/
theorem reduceLoop_latest_recorded {first : EventV1} {events : List EventV1} {s : Reduction}
    (run : reduceLoop P first events = .ok s) :
    ∀ c ∈ s.latestVerificationLeaseByCandidate, c ∈ s.candidateIds := by
  refine foldlM_invariant
    (fun _ s => ∀ c ∈ s.latestVerificationLeaseByCandidate, c ∈ s.candidateIds) ?_ ?_ run
  · simp [Reduction.initial]
  · intro h s e s' hrun ih hstep c hc
    obtain ⟨-, phase, t, -, hturn, rfl⟩ := step_turn hstep
    have hrecords := reduceLoop_records hrun
    have hadmitted : ∀ {lease candidateEvent admission grant},
        LeaseAdmitted s e lease candidateEvent admission grant →
        c = lease.candidateId → c ∈ s.candidateIds := by
      rintro lease candidateEvent admission grant hlease rfl
      obtain ⟨hmem, hk⟩ := hrecords.candidateEvents _ _ hlease.hcandidate
      exact (hrecords.candidateIds _).mpr ⟨_, hmem, hk⟩
    cases hturn with
    | candidateRecorded hp => exact Finset.mem_insert_of_mem (ih c hc)
    | leaseIssued hp hlease hnever =>
      rcases (AList.mem_insert _).mp hc with hc | hc
      · exact hadmitted hlease hc
      · exact ih c hc
    | leaseReassigned hp _ _ _ _ hlease _ hsuper =>
      cases hsuper with
      | active hactive htime =>
        rcases (AList.mem_insert _).mp hc with hc | hc
        · exact hadmitted hlease hc
        · exact ih c hc
      | recovered hactive hdisposed =>
        rcases (AList.mem_insert _).mp hc with hc | hc
        · exact hadmitted hlease hc
        · exact ih c hc
    | _ => exact ih c hc

/-- Every candidate has a class after every run of the book. -/
theorem exists_candidateClass {h : List (Move Digest Digest)} {b : Book Digest Digest}
    (hb : Steps h .empty b) (c : Digest) : ∃ k, candidateClass b c = some k := by
  cases hl : b.latest c with
  | none => exact ⟨.neverAssigned, by simp [candidateClass, hl]⟩
  | some i =>
    obtain ⟨st, hst, hlive⟩ := status_of_latest hb hl
    cases st <;> simp_all [candidateClass, classOf]

/-- After every run of the loop `_verification_candidate_partitions` returns the classes of
the recorded candidates. -/
theorem partitions_eq_ok {events : List EventV1} {s : Reduction} {b : Book Digest Digest}
    (hb : Steps (leaseMoves events) .empty b) (hr : Represents s b)
    (hrecorded : ∀ c ∈ s.latestVerificationLeaseByCandidate, c ∈ s.candidateIds) :
    ∃ p, s.partitions = .ok p ∧
      ∀ k c, c ∈ p.part k ↔ c ∈ s.candidateIds ∧ candidateClass b c = some k := by
  have hkeys : ∀ c, c ∈ s.latestVerificationLeaseByCandidate.keys.toFinset ↔ b.latest c ≠ none := by
    intro c
    rw [List.mem_toFinset, ← AList.mem_keys, ← hr.latest, ← AList.lookup_isSome,
      Option.isSome_iff_ne_none]
  have hlatest : ∀ x ∈ s.latestVerificationLeaseByCandidate.entries, b.latest x.1 = some x.2 := by
    intro x hx
    rw [← hr.latest]
    exact AList.mem_lookup_iff.mpr hx
  obtain ⟨p, hp, hmem⟩ := partitionFold_eq_ok hr s.latestVerificationLeaseByCandidate.entries
    { active := ∅, receiptCovered := ∅,
      neverAssigned := s.candidateIds \ s.latestVerificationLeaseByCandidate.keys.toFinset,
      latestExpired := ∅, latestCancelled := ∅ }
    fun x hx => status_of_latest hb (hlatest x hx)
  have hpart : ∀ k c, c ∈ p.part k ↔ c ∈ s.candidateIds ∧ candidateClass b c = some k := by
    intro k c
    rw [hmem]
    cases hc : b.latest c with
    | none =>
      have hno : ¬∃ x ∈ s.latestVerificationLeaseByCandidate.entries,
          c = x.1 ∧ (b.status x.2).bind classOf = some k := by
        rintro ⟨x, hx, rfl, -⟩
        simp [hlatest x hx] at hc
      have hnot := mt (hkeys c).mp (by simp [hc])
      cases k <;> simp [CandidatePartitions.part, candidateClass, hc, hno, -List.mem_toFinset, hnot]
    | some i =>
      have hyes : c ∈ s.latestVerificationLeaseByCandidate.keys.toFinset :=
        (hkeys c).mpr (by simp [hc])
      have hin : c ∈ s.candidateIds := hrecorded c (by simpa [AList.mem_keys] using hyes)
      have hentry : (∃ x ∈ s.latestVerificationLeaseByCandidate.entries,
          c = x.1 ∧ (b.status x.2).bind classOf = some k) ↔
          (b.status i).bind classOf = some k := by
        constructor
        · rintro ⟨x, hx, rfl, hclass⟩
          obtain rfl : x.2 = i := Option.some.inj ((hlatest x hx).symm.trans hc)
          exact hclass
        · intro hclass
          exact ⟨⟨c, i⟩, AList.mem_lookup_iff.mp ((hr.latest c).trans hc), rfl, hclass⟩
      rw [hentry]
      cases k <;>
        simp [CandidatePartitions.part, candidateClass, hc, hin, -List.mem_toFinset, hyes]
  obtain ⟨hunion, hcard⟩ := partition_checks p.part candidateClasses s.candidateIds
    (by decide)
    (fun c => by
      constructor
      · intro hc
        obtain ⟨k, hk⟩ := exists_candidateClass hb c
        exact ⟨k, mem_candidateClasses k, (hpart k c).mpr ⟨hc, hk⟩⟩
      · rintro ⟨k, -, hk⟩
        exact ((hpart k c).mp hk).1)
    (fun c k k' h h' => by
      rw [hpart] at h h'
      exact Option.some.inj (h.2.symm.trans h'.2))
  refine ⟨p, ?_, hpart⟩
  have hsubset : s.latestVerificationLeaseByCandidate.keys.toFinset ⊆ s.candidateIds := fun c hc =>
    hrecorded c (by simpa [AList.mem_keys] using hc)
  simp only [Reduction.partitions, verificationCandidatePartitions, unit_bind_eq_ok,
    refuseIf_eq_ok, not_not]
  refine ⟨hsubset, bind_eq_ok.mpr ⟨p, hp, ?_⟩⟩
  simp only [unit_bind_eq_ok, refuseIf_eq_ok, not_or, not_not]
  exact ⟨⟨hunion, hcard⟩, rfl⟩

/-- The classes after every run of the loop. -/
theorem reduceLoop_partitions {first : EventV1} {events : List EventV1} {s : Reduction}
    (run : reduceLoop P first events = .ok s) :
    ∃ b p, Steps (leaseMoves events) .empty b ∧ Represents s b ∧ s.partitions = .ok p ∧
      ∀ k c, c ∈ p.part k ↔ c ∈ s.candidateIds ∧ candidateClass b c = some k := by
  obtain ⟨b, hb, hr⟩ := reduceLoop_follows run
  obtain ⟨p, hp, hpart⟩ := partitions_eq_ok hb hr (reduceLoop_latest_recorded run)
  exact ⟨b, p, hb, hr, hp, hpart⟩

/-- The loop decides acceptance : the closing checks never raise. -/
theorem reduceEvents_of_reduceLoop {first : EventV1} {rest : List EventV1} {s : Reduction}
    (run : reduceLoop P first (first :: rest) = .ok s) :
    ∃ p, s.partitions = .ok p ∧
      reduceEvents P (first :: rest) =
        .ok { events := first :: rest, final := s, partitions := p } := by
  obtain ⟨b, p, -, hr, hp, -⟩ := reduceLoop_partitions run
  refine ⟨p, hp, ?_⟩
  simp only [reduceEvents]
  exact bind_eq_ok.mpr ⟨s, run, unit_bind_eq_ok.mpr ⟨hr.checkDispositions,
    bind_eq_ok.mpr ⟨p, hp, rfl⟩⟩⟩

theorem reduceEvents_eq_ok {events : List EventV1} {q : MissionProjection}
    (h : reduceEvents P events = .ok q) :
    ∃ first rest, events = first :: rest ∧ q.events = events ∧
      reduceLoop P first events = .ok q.final := by
  cases events with
  | nil => simp [reduceEvents] at h
  | cons first rest =>
    simp only [reduceEvents] at h
    obtain ⟨s, hs, h⟩ := bind_eq_ok.mp h
    obtain ⟨-, h⟩ := unit_bind_eq_ok.mp h
    obtain ⟨p, -, h⟩ := bind_eq_ok.mp h
    obtain rfl : _ = q := by simpa [pure, Except.pure] using h
    exact ⟨first, rest, rfl, rfl, hs⟩

/-- Every nonempty prefix of an accepted stream is accepted. -/
theorem reduceEvents_prefix {events pre : List EventV1} {q : MissionProjection}
    (h : reduceEvents P events = .ok q) (hpre : pre <+: events) (hne : pre ≠ []) :
    ∃ r, reduceEvents P pre = .ok r := by
  obtain ⟨first, rest, rfl, -, hrun⟩ := reduceEvents_eq_ok h
  cases pre with
  | nil => exact absurd rfl hne
  | cons x xs =>
    obtain ⟨rfl, -⟩ := List.cons_prefix_cons.mp hpre
    obtain ⟨m, hm⟩ := foldlM_prefix_ok hpre hrun
    obtain ⟨p, -, hok⟩ := reduceEvents_of_reduceLoop hm
    exact ⟨_, hok⟩

/-- The lease a creating event introduces is known after the run. -/
theorem mem_leaseIds_of_created {first e : EventV1} {events : List EventV1} {s : Reduction}
    {lease : VerificationLeaseV1} (run : reduceLoop P first events = .ok s) (he : e ∈ events)
    (hlease : e.createdLease? = some lease) : lease.leaseId ∈ s.verificationLeaseIds := by
  obtain ⟨b, hb, hr⟩ := reduceLoop_follows run
  have hmem : lease.leaseId ∈ leases (leaseMoves events) := by
    rw [leases_leaseMoves]
    exact List.mem_map.mpr ⟨lease, List.mem_filterMap.mpr ⟨e, he, hlease⟩, rfl⟩
  rw [hr.ids]
  intro hnone
  exact ((known hb).status _).mp hnone hmem

/-- After every run of the loop each lease has exactly one disposition and each recorded
candidate is in exactly one class, by the disposition of its latest lease; so the closing checks and
every call of `_verification_candidate_partitions` pass, and acceptance is prefix-closed. -/
theorem reduceEvents_exact_dispositions (P : Primitives) :
    (∀ first rest s, reduceLoop P first (first :: rest) = .ok s →
      (∀ e ∈ first :: rest, ∀ lease, e.createdLease? = some lease →
        ∃! st, lease.leaseId ∈ s.leasesIn st) ∧
      checkDispositions s = .ok () ∧
      (∃ p, s.partitions = .ok p ∧
        (∀ e ∈ first :: rest, ∀ c, e.candidate? = some c → ∃! k, c.candidateId ∈ p.part k) ∧
        ∀ k c, c ∈ p.part k ↔ c ∈ s.candidateIds ∧ s.InClass k c) ∧
      ∀ pre m, pre <+: first :: rest → reduceLoop P first pre = .ok m →
        ∃ p, m.partitions = .ok p) ∧
    ∀ events q, reduceEvents P events = .ok q →
      ∀ pre, pre ≠ [] → pre <+: events → ∃ r, reduceEvents P pre = .ok r := by
  refine ⟨fun first rest s run => ?_, fun events q h pre hne hpre => reduceEvents_prefix h hpre hne⟩
  obtain ⟨b, p, hb, hr, hp, hpart⟩ := reduceLoop_partitions run
  refine ⟨?_, hr.checkDispositions, ⟨p, hp, ?_, ?_⟩, ?_⟩
  · intro e he lease hlease
    exact hr.existsUnique_status (mem_leaseIds_of_created run he hlease)
  · intro e he c hc
    have hmem : c.candidateId ∈ s.candidateIds :=
      ((reduceLoop_records run).candidateIds _).mpr ⟨e, he, c, hc, rfl⟩
    obtain ⟨k, hk⟩ := exists_candidateClass hb c.candidateId
    refine ⟨k, (hpart k _).mpr ⟨hmem, hk⟩, fun k' hk' => ?_⟩
    exact Option.some.inj (((hpart k' _).mp hk').2.symm.trans hk)
  · intro k c
    rw [hpart, hr.inClass_iff]
  · intro pre m _ hm
    obtain ⟨_, p, -, -, hp, -⟩ := reduceLoop_partitions hm
    exact ⟨p, hp⟩

/-- The sample mission's two leases have one disposition each, and its prefixes are
accepted. -/
theorem reduceEvents_exact_dispositions_sample :
    ∃ s, reduceLoop samplePrimitives (sampleMission.get ⟨0, by decide⟩) sampleMission = .ok s ∧
      (∃! st, (402 : Digest) ∈ s.leasesIn st) ∧
      ∃ r, reduceEvents samplePrimitives (sampleMission.take 8) = .ok r := by
  obtain ⟨q, hq⟩ := sampleMission_accepted
  obtain ⟨first, rest, hevents, -, run⟩ := reduceEvents_eq_ok hq
  obtain rfl : sampleMission.get ⟨0, by decide⟩ = first := (List.cons.inj hevents).1
  obtain ⟨hloop, hprefix⟩ := reduceEvents_exact_dispositions samplePrimitives
  refine ⟨q.final, run, ?_, hprefix _ q hq _ (by decide) (List.take_prefix 8 _)⟩
  refine (hloop _ _ _ run).1 (sampleMission.get ⟨6, by decide⟩) ?_ (sampleLease 402 "second" 202 30)
    rfl
  exact List.getElem_mem _

end Etzio
