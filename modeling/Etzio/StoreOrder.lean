import Etzio.StoreFrames
import Etzio.Turns

/-!
# Instance order and predecessors

What the replay establishes about an accepted modeled store. `Structured` is what its
structural queries say : with the unique keys they make the instance sequence an
unbroken count of which the finalized transitions are a prefix, and at most one
transition is open (`Structured.order_cases`).

The replay loop authenticates every event sequence against the mission predecessor's
checkpoint, so the event sequences of each mission are numbered along the instance
order (`Passed`). This is what makes the three ways to find the predecessors of a
transition agree : the running values of the loop, the lookups by index
(`predecessorLineages_eq`), and at the time of a write the descending queries
(`previousIntegrityLineages_eq`).
-/

open CheckedRun Rows

namespace Etzio

variable {E : Env}

/-! ## Structure -/

/-- What the structural queries of the replay establish. -/
structure Structured (t : E.Db) : Prop where
  count : t.events.length = t.pending.length
  event : ∀ e ∈ t.events, ∃ p ∈ t.pending,
    p.eventDigest = e.digest ∧ p.missionId = e.missionId ∧ p.eventSeq = e.seq
  rank : ∀ p ∈ t.pending, p.instanceSequence =
    (t.pending.filter fun q => q.instanceSequence < p.instanceSequence).length
  anchorsLe : t.anchors.length ≤ t.pending.length
  finalizedAnchors : t.finalizations.length ≤ t.anchors.length
  finalizedCandidates : t.finalizations.length ≤ t.candidates.length
  candidatesLe : t.candidates.length ≤ t.anchors.length
  openOne : t.pending.length = t.finalizations.length ∨
    t.pending.length = t.finalizations.length + 1
  anchorParent : ∀ a ∈ t.anchors, ∃ p ∈ t.pending, p.eventDigest = a.eventDigest
  candidateParent : ∀ c ∈ t.candidates, ∃ a ∈ t.anchors, a.eventDigest = c.eventDigest
  finalizationParent : ∀ f ∈ t.finalizations, ∃ c ∈ t.candidates, c.eventDigest = f.eventDigest
  finalizedPrefix : ∀ p ∈ t.pending, p.instanceSequence < t.finalizations.length →
    t.IsFinalized p.eventDigest
  evidence : ∀ a ∈ t.artifacts, ∃ m ∈ t.mappings, m.evidenceId = a.evidenceId
  phase : ∀ m ∈ t.mappings, t.HasPhase m.phase m.eventDigest

theorem checkStructure_eq_ok {t : E.Db} :
    checkStructure E t = .ok () ↔ Structured t ∧ ∃ d, unresolvedIntegrityDigest t = .ok d := by
  unfold checkStructure
  rw [unit_bind_eq_ok, unit_bind_eq_ok, unit_bind_eq_ok, unit_bind_eq_ok, unit_bind_eq_ok,
    unit_bind_eq_ok, unit_bind_eq_ok, unit_bind_eq_ok, bind_eq_ok]
  simp only [refuseIf_eq_ok]
  push Not
  constructor
  · rintro ⟨h1, h2, h3, ⟨h4, h5, h6, h7, h8⟩, ⟨h9, h10, h11⟩, h12, h13, h14, d, hd, -⟩
    exact ⟨⟨h1, h2, h3, h4, h5, h6, h7, h8, h9, h10, h11, h12, h13, h14⟩,
      d, hd⟩
  · rintro ⟨h, d, hd⟩
    exact ⟨h.count, h.event, h.rank, ⟨h.anchorsLe, h.finalizedAnchors, h.finalizedCandidates,
      h.candidatesLe, h.openOne⟩,
      ⟨h.anchorParent, h.candidateParent, h.finalizationParent⟩, h.finalizedPrefix, h.evidence,
      h.phase, d, hd, rfl⟩

section Order

variable {t : E.Db}

theorem Structured.instanceSequence_lt (hs : Structured t) {p : PendingRow} (hp : p ∈ t.pending) :
    p.instanceSequence < t.pending.length := by
  rw [hs.rank p hp]
  refine List.length_filter_lt_length_iff_exists.mpr ⟨p, hp, by simp⟩

/-- The finalized transitions are exactly a prefix of the instance sequence. -/
theorem Structured.isFinalized_iff (hk : t.Keys) (hs : Structured t) {p : PendingRow}
    (hp : p ∈ t.pending) :
    t.IsFinalized p.eventDigest ↔ p.instanceSequence < t.finalizations.length := by
  refine ⟨fun hfin => ?_, hs.finalizedPrefix p hp⟩
  by_contra hge
  -- Otherwise `p` is the last row, every row is finalized, and there are too many of them.
  have hlt := hs.instanceSequence_lt hp
  have hlen : t.pending.length = t.finalizations.length + 1 := by
    have := hs.openOne
    omega
  have hsub : t.pending.map PendingRow.eventDigest ⊆
      t.finalizations.map FinalizationRow.eventDigest := by
    intro d hd
    obtain ⟨q, hq, rfl⟩ := List.mem_map.mp hd
    have hqlt := hs.instanceSequence_lt hq
    have hqfin : t.IsFinalized q.eventDigest := by
      by_cases hqp : q.instanceSequence = p.instanceSequence
      · rwa [List.inj_on_of_nodup_map hk.pendingSequence hq hp hqp]
      · exact hs.finalizedPrefix q hq (by omega)
    obtain ⟨f, hf, hfd⟩ := hqfin
    exact List.mem_map.mpr ⟨f, hf, hfd⟩
  have hle := (hk.pendingDigest.subperm hsub).length_le
  simp only [List.length_map] at hle
  omega

/-- The instance sequence of a row is its position. -/
theorem Structured.instanceSequence_eq (hk : t.Keys) (hs : Structured t)
    {pre post : List PendingRow} {r : PendingRow} (h : t.instanceOrder = pre ++ r :: post) :
    r.instanceSequence = pre.length :=
  orderBy_rank hk.pendingSequence hs.rank h

theorem mem_instanceOrder {p : PendingRow} : p ∈ t.instanceOrder ↔ p ∈ t.pending := mem_orderBy

/-- Everything before a row in instance order is finalized. -/
theorem Structured.isFinalized_of_before (hk : t.Keys) (hs : Structured t)
    {pre post : List PendingRow} {r p : PendingRow} (h : t.instanceOrder = pre ++ r :: post)
    (hp : p ∈ pre) : t.IsFinalized p.eventDigest := by
  obtain ⟨a, b, rfl⟩ := List.append_of_mem hp
  have hmem : p ∈ t.pending := mem_instanceOrder.mp (by rw [h]; simp)
  have hidx : p.instanceSequence = a.length :=
    hs.instanceSequence_eq hk (show t.instanceOrder = a ++ p :: (b ++ r :: post) by simp [h])
  have hlen : t.instanceOrder.length = t.pending.length := length_orderBy
  rw [h] at hlen
  simp only [List.length_append, List.length_cons] at hlen
  refine hs.finalizedPrefix p hmem ?_
  have := hs.openOne
  omega

/-- Either everything is finalized, or everything but the last row is. -/
theorem Structured.order_cases (hk : t.Keys) (hs : Structured t) :
    (t.unresolved = [] ∧ t.pending.length = t.finalizations.length ∧
        ∀ p ∈ t.pending, t.IsFinalized p.eventDigest) ∨
      ∃ init r, t.instanceOrder = init ++ [r] ∧ t.unresolved = [r] ∧
        t.pending.length = t.finalizations.length + 1 ∧
        (∀ p ∈ init, t.IsFinalized p.eventDigest) ∧ ¬t.IsFinalized r.eventDigest := by
  rcases hs.openOne with hlen | hlen
  · have hall : ∀ p ∈ t.pending, t.IsFinalized p.eventDigest := fun p hp =>
      hs.finalizedPrefix p hp (hlen ▸ hs.instanceSequence_lt hp)
    refine .inl ⟨?_, hlen, hall⟩
    unfold Tables.unresolved
    rw [List.filter_eq_nil_iff]
    intro p hp
    simpa using hall p (mem_orderBy.mp hp)
  · rcases List.eq_nil_or_concat t.instanceOrder with hnil | ⟨init, r, horder⟩
    · have hzero : t.instanceOrder.length = t.pending.length := length_orderBy
      simp only [hnil, List.length_nil] at hzero
      omega
    · rw [List.concat_eq_append] at horder
      have hinit : ∀ p ∈ init, t.IsFinalized p.eventDigest := fun p hp =>
        hs.isFinalized_of_before hk horder hp
      have hr : ¬t.IsFinalized r.eventDigest := by
        have hmem : r ∈ t.pending := mem_instanceOrder.mp (by simp [horder])
        have hidx := hs.instanceSequence_eq hk horder
        have hlo : t.instanceOrder.length = t.pending.length := length_orderBy
        simp only [horder, List.length_append, List.length_singleton] at hlo
        rw [hs.isFinalized_iff hk hmem]
        omega
      refine .inr ⟨init, r, horder, ?_, hlen, hinit, hr⟩
      change t.instanceOrder.filter _ = _
      rw [horder, List.filter_append, List.filter_eq_nil_iff.mpr fun p hp => by
        simpa using hinit p hp]
      simp [hr]

/-- At most one transition is open. -/
theorem Structured.unresolvedIntegrityDigest_ok (hk : t.Keys) (hs : Structured t) :
    ∃ d, unresolvedIntegrityDigest t = .ok d := by
  unfold unresolvedIntegrityDigest
  rcases hs.order_cases hk with ⟨hu, -⟩ | ⟨init, r, -, hu, -⟩
  · rw [hu]
    exact ⟨none, rfl⟩
  · rw [hu]
    exact ⟨some r.eventDigest, rfl⟩

/-- With the unique keys the structural queries pass exactly on structured tables. -/
theorem checkStructure_iff (hk : t.Keys) : checkStructure E t = .ok () ↔ Structured t := by
  rw [checkStructure_eq_ok]
  exact ⟨And.left, fun hs => ⟨hs, hs.unresolvedIntegrityDigest_ok hk⟩⟩

end Order

/-! ## Loaded lineages -/

section Loaded

variable {t : E.Db} {d : Digest} {l : IntegrityLineageV1}

theorem loadPhase_eq_ok {ρ : Type} {t : E.Db} {phase : EvidencePhase} {m : String}
    {row : Option (ρ × Bool)} {evidence : ρ → List ProviderEvidenceBlobV1} {x : Option ρ}
    (h : loadPhase t d phase m row evidence = .ok x) : x = row.map Prod.fst := by
  unfold loadPhase at h
  split at h
  · exact (Except.ok.inj h).symm
  · obtain ⟨-, h⟩ := unit_bind_eq_ok.mp h
    obtain ⟨-, h⟩ := unit_bind_eq_ok.mp h
    exact (Except.ok.inj h).symm

/-- The constructor returns the records it was given. -/
theorem construct_eq_ok {I : IntegrityPrimitives} {p : PendingIntegrityTransitionV1}
    {a : Option AnchorStatementRecordV1} {c : Option CheckpointCandidateRecordV1}
    {f : Option FinalizedIntegrityTransitionV1}
    (h : IntegrityLineageV1.construct I p a c f = .ok l) :
    l = ⟨p, a, c, f⟩ ∧ (a = none → c = none) ∧ (c = none → f = none) := by
  unfold IntegrityLineageV1.construct at h
  obtain ⟨h1, h⟩ := unit_bind_eq_ok.mp h
  obtain ⟨h2, h⟩ := unit_bind_eq_ok.mp h
  obtain ⟨-, h⟩ := unit_bind_eq_ok.mp h
  obtain ⟨-, h⟩ := unit_bind_eq_ok.mp h
  obtain ⟨-, h⟩ := unit_bind_eq_ok.mp h
  rw [refuseIf_eq_ok] at h1 h2
  push Not at h1 h2
  exact ⟨(Except.ok.inj h).symm, fun ha => (h1 ha).1, h2⟩

/-- What a loaded lineage was read from. -/
structure LoadedFrom (t : E.Db) (d : Digest) (l : IntegrityLineageV1) (r : PendingRow) :
    Prop where
  row : findBy PendingRow.eventDigest d t.pending = some r
  agrees : r.Agrees E.integrity
  pending : l.pending = r.record
  anchorStatement : l.anchorStatement = (anchorRow E t d).map Prod.fst
  checkpointCandidate : l.checkpointCandidate = (candidateRow E t d).map Prod.fst
  finalization : l.finalization = (finalizationRow E t d).map Prod.fst
  anchorFirst : l.anchorStatement = none → l.checkpointCandidate = none
  candidateFirst : l.checkpointCandidate = none → l.finalization = none

theorem loadIntegrityLineage_some (h : loadIntegrityLineage E t d = .ok (some l)) :
    ∃ r, LoadedFrom t d l r := by
  unfold loadIntegrityLineage at h
  split at h
  · simp at h
  · rename_i r hr
    obtain ⟨hagrees, h⟩ := unit_bind_eq_ok.mp h
    obtain ⟨-, h⟩ := unit_bind_eq_ok.mp h
    obtain ⟨-, h⟩ := unit_bind_eq_ok.mp h
    obtain ⟨a, ha, h⟩ := bind_eq_ok.mp h
    obtain ⟨c, hc, h⟩ := bind_eq_ok.mp h
    obtain ⟨f, hf, h⟩ := bind_eq_ok.mp h
    obtain ⟨x, hx, h⟩ := bind_eq_ok.mp h
    obtain rfl : x = l := Option.some.inj (Except.ok.inj h)
    obtain ⟨rfl, h1, h2⟩ := construct_eq_ok (mapError_eq_ok.mp hx)
    rw [refuseIf_eq_ok, not_not] at hagrees
    exact ⟨r, hr, hagrees, rfl, loadPhase_eq_ok ha, loadPhase_eq_ok hc, loadPhase_eq_ok hf, h1, h2⟩

/-- A loaded lineage has a finalization exactly when its event is finalized. -/
theorem LoadedFrom.finalization_ne_none {r : PendingRow} (h : LoadedFrom t d l r) :
    l.finalization ≠ none ↔ t.IsFinalized d := by
  rw [h.finalization, finalizationRow, Option.map_map, ne_eq, Option.map_eq_none_iff,
    findBy_eq_none]
  unfold Tables.IsFinalized
  push Not
  rfl

/-- The row of a pending event is the one with its digest. -/
theorem LoadedFrom.row_eq {r r' : PendingRow} (hk : t.Keys) (hr' : r' ∈ t.pending)
    (h : LoadedFrom t r'.eventDigest l r) : r = r' := by
  have hfind : findBy PendingRow.eventDigest r'.eventDigest t.pending = some r' :=
    (findBy_eq_some hk.pendingDigest).mpr ⟨hr', rfl⟩
  exact Option.some.inj (h.row.symm.trans hfind)

end Loaded

/-! ## One turn of the replay -/

section Turn

variable {t : E.Db} {p : ModeledProfile} {s s' : Predecessors} {r : PendingRow} {e : EventV1}
  {l : IntegrityLineageV1} {g m : Option IntegrityLineageV1}

/-- What authenticating a retained lineage establishes. -/
structure Authenticated (t : E.Db) (p : ModeledProfile) (e : EventV1) (l : IntegrityLineageV1)
    (g m : Option IntegrityLineageV1) : Prop where
  binding : matchesAuthorityBinding E l.pending l.checkpointCandidate p.authorityBinding
  pending : validatePendingTransition E.integrity e l.pending g m p.serviceInstanceId
    p.environmentId p.validationPolicy = .ok ()
  anchor : ∀ a, l.anchorStatement = some a →
    validateAnchorStatement E.integrity l.pending a m = .ok ()
  candidate : ∀ c, l.checkpointCandidate = some c → ∃ a x, l.anchorStatement = some a ∧
    validateCheckpointCandidate E.integrity e l.pending a c g m = .ok x
  finalization : l.finalization ≠ none → ∃ x,
    validateFinalizedIntegrityTransition E.integrity l e g m = .ok x
  qualified : verifyQualifiedLineage E t l g none = .ok ()

theorem replayAnchor_eq_ok : replayAnchor E l m = .ok () ↔ ∀ a, l.anchorStatement = some a →
    validateAnchorStatement E.integrity l.pending a m = .ok () := by
  unfold replayAnchor
  split
  · simp [*]
  · simp [*]

theorem replayCandidate_eq_ok : replayCandidate E e l g m = .ok () ↔
    ∀ c, l.checkpointCandidate = some c → ∃ a x, l.anchorStatement = some a ∧
      validateCheckpointCandidate E.integrity e l.pending a c g m = .ok x := by
  unfold replayCandidate
  split
  · simp [*]
  · simp [*]
  · rw [bind_eq_ok]
    simp [pure, Except.pure, *]

theorem replayFinalization_eq_ok : replayFinalization E e l g m = .ok () ↔
    (l.finalization ≠ none → ∃ x,
      validateFinalizedIntegrityTransition E.integrity l e g m = .ok x) := by
  unfold replayFinalization
  split
  · simp [*]
  · rw [bind_eq_ok]
    simp [pure, Except.pure, *]

theorem authenticateRetained_eq_ok :
    authenticateRetained E t p e l g m = .ok () ↔ Authenticated t p e l g m := by
  unfold authenticateRetained
  rw [unit_bind_eq_ok, unit_bind_eq_ok, unit_bind_eq_ok, unit_bind_eq_ok, unit_bind_eq_ok,
    refuseIf_eq_ok, not_not, mapError_eq_ok, mapError_eq_ok, replayAnchor_eq_ok,
    replayCandidate_eq_ok, replayFinalization_eq_ok]
  exact ⟨fun ⟨hb, hp, ha, hc, hf, hq⟩ => ⟨hb, hp, ha, hc, hf, hq⟩,
    fun ⟨hb, hp, ha, hc, hf, hq⟩ => ⟨hb, hp, ha, hc, hf, hq⟩⟩

theorem replayStep_eq_ok :
    replayStep E t p s r = .ok s' ↔ ∃ l e, loadIntegrityLineage E t r.eventDigest = .ok (some l) ∧
      eventForIntegrityDigest E t r.eventDigest = .ok e ∧
      Authenticated t p e l s.global (s.byMission.lookup e.missionId) ∧
      s' = if l.finalization = none then s else ⟨some l, s.byMission.insert e.missionId l⟩ := by
  unfold replayStep
  constructor
  · intro h
    obtain ⟨o, ho, h⟩ := bind_eq_ok.mp h
    obtain ⟨l, hl, h⟩ := orRefuse_bind_eq_ok.mp h
    obtain ⟨e, he, h⟩ := bind_eq_ok.mp h
    obtain ⟨ha, h⟩ := unit_bind_eq_ok.mp h
    exact ⟨l, e, hl ▸ ho, he, authenticateRetained_eq_ok.mp ha, (Except.ok.inj h).symm⟩
  · rintro ⟨l, e, hl, he, ha, rfl⟩
    refine bind_eq_ok.mpr ⟨some l, hl, orRefuse_bind_eq_ok.mpr ⟨l, rfl, bind_eq_ok.mpr ⟨e, he, ?_⟩⟩⟩
    exact unit_bind_eq_ok.mpr ⟨authenticateRetained_eq_ok.mpr ha, rfl⟩

/-- The event a lineage was authenticated with has the coordinates of its row. -/
theorem Authenticated.coordinates {r' : PendingRow} (h : Authenticated t p e l g m)
    (hl : LoadedFrom t r.eventDigest l r') : e.missionId = r'.missionId ∧ e.seq = r'.eventSeq := by
  have hb := validatePendingTransition_event h.pending
  rw [hl.pending] at hb
  exact ⟨hb.missionId.symm.trans hl.agrees.2.1, hb.eventSeq.symm.trans hl.agrees.2.2.1⟩

/-- An authenticated checkpoint carries the event's sequence number. -/
theorem Authenticated.checkpoint_eventSeq (h : Authenticated t p e l g m)
    {c : CheckpointCandidateRecordV1} (hc : l.checkpointCandidate = some c) :
    c.checkpoint.eventSeq = e.seq := by
  obtain ⟨a, x, -, hx⟩ := h.candidate c hc
  exact validateCheckpointCandidate_eventSeq hx

end Turn

/-! ## The replay loop -/

/-- The lineage of a row, if it loads. -/
def lineageOf (t : E.Db) (r : PendingRow) : Option IntegrityLineageV1 :=
  (loadIntegrityLineage E t r.eventDigest).toOption.join

/-- The replay loop has passed these finalized rows : each has its checkpoint, their
event sequences are numbered along each mission, and the running predecessors are the
lineages of the last row and of the last row of each mission. -/
structure Passed (t : E.Db) (rows : List PendingRow) (s : Predecessors) : Prop where
  finalized : ∀ r ∈ rows, ∃ l c, loadIntegrityLineage E t r.eventDigest = .ok (some l) ∧
    l.finalization ≠ none ∧ l.checkpointCandidate = some c ∧ c.checkpoint.eventSeq = r.eventSeq
  numbered : Numbered PendingRow.missionId PendingRow.eventSeq rows
  global : s.global = rows.getLast?.bind (lineageOf t)
  mission : ∀ m, s.byMission.lookup m = (lastOf PendingRow.missionId m rows).bind (lineageOf t)

section Replay

variable {t : E.Db} {p : ModeledProfile} {rows pre post : List PendingRow} {s s' : Predecessors}
  {r : PendingRow} {e : EventV1} {l : IntegrityLineageV1}

theorem lineageOf_eq (h : loadIntegrityLineage E t r.eventDigest = .ok (some l)) :
    lineageOf t r = some l := by
  rw [lineageOf, h]
  rfl

/-- The next row's event sequence follows the last one of its mission. -/
theorem Passed.eventSeq_eq (h : Passed t rows s)
    (ha : Authenticated t p e l s.global (s.byMission.lookup e.missionId))
    (hl : LoadedFrom t r.eventDigest l r) :
    r.eventSeq = (lastOf PendingRow.missionId r.missionId rows).elim 0 fun b => b.eventSeq + 1 := by
  obtain ⟨hm, hseq⟩ := ha.coordinates hl
  obtain ⟨hfirst, hnext⟩ := validatePendingTransition_successor ha.pending
  rw [hm, h.mission] at hfirst hnext
  cases hlast : lastOf PendingRow.missionId r.missionId rows with
  | none =>
    rw [hlast] at hfirst
    exact hseq.symm.trans (hfirst rfl)
  | some b =>
    obtain ⟨lb, c, hlb, -, hc, hcseq⟩ := h.finalized b (mem_of_lastOf hlast).1
    rw [hlast, Option.bind_some, lineageOf_eq hlb] at hnext
    obtain ⟨c', hc', hsucc⟩ := hnext lb rfl
    obtain rfl : c = c' := Option.some.inj (hc.symm.trans hc')
    rw [Option.elim_some, ← hseq, hsucc, hcseq]

theorem Passed.nil : Passed t [] ⟨none, ∅⟩ :=
  ⟨by simp, Numbered.nil, rfl, fun m => by simp [lastOf]⟩

/-- One turn over a finalized row. -/
theorem Passed.snoc (hk : t.Keys) (h : Passed t rows s) (hr : r ∈ t.pending)
    (hfin : t.IsFinalized r.eventDigest) (hs : replayStep E t p s r = .ok s') :
    Passed t (rows ++ [r]) s' := by
  obtain ⟨l, e, hload, -, ha, rfl⟩ := replayStep_eq_ok.mp hs
  obtain ⟨r', hl⟩ := loadIntegrityLineage_some hload
  obtain rfl := hl.row_eq hk hr
  have hf : l.finalization ≠ none := hl.finalization_ne_none.mpr hfin
  have hm := (ha.coordinates hl).1
  rw [if_neg hf]
  refine ⟨fun x hx => ?_, h.numbered.snoc (h.eventSeq_eq ha hl), ?_, fun m => ?_⟩
  · rcases List.mem_append.mp hx with hx | hx
    · exact h.finalized x hx
    · obtain rfl := List.mem_singleton.mp hx
      obtain ⟨c, hc⟩ := Option.ne_none_iff_exists'.mp fun hc => hf (hl.candidateFirst hc)
      exact ⟨l, c, hload, hf, hc, (ha.checkpoint_eventSeq hc).trans (ha.coordinates hl).2⟩
  · simp [lineageOf_eq hload]
  · rw [Dict.lookup_insert, lastOf_snoc, hm]
    by_cases hmr : m = r'.missionId
    · rw [if_pos hmr, if_pos hmr.symm, Option.bind_some, lineageOf_eq hload]
    · rw [if_neg hmr, if_neg (Ne.symm hmr), h.mission]

/-- Replaying finalized rows passes them. -/
theorem replayRows_passed (hk : t.Keys)
    (hrows : ∀ r ∈ rows, r ∈ t.pending ∧ t.IsFinalized r.eventDigest)
    (h : replayRows E t p rows = .ok s) : Passed t rows s := by
  refine foldlM_invariant
    (fun h s => (∀ r ∈ h, r ∈ t.pending ∧ t.IsFinalized r.eventDigest) → Passed t h s)
    (fun _ => Passed.nil) ?_ h hrows
  intro h s r s' _ ih hs hrows
  obtain ⟨hr, hfin⟩ := hrows r (by simp)
  exact (ih fun x hx => hrows x (List.mem_append_left _ hx)).snoc hk hr hfin hs

/-- The replay up to a row of the instance order, and its turn. -/
theorem replay_at (hk : t.Keys) (hst : Structured t)
    (h : replayRows E t p t.instanceOrder = .ok s') (horder : t.instanceOrder = pre ++ r :: post) :
    ∃ s u, replayRows E t p pre = .ok s ∧ Passed t pre s ∧ replayStep E t p s r = .ok u := by
  rw [horder] at h
  obtain ⟨s, u, hs, hu, -⟩ := foldlM_split h
  refine ⟨s, u, hs, replayRows_passed hk (fun x hx => ⟨?_, ?_⟩) hs, hu⟩
  · exact mem_instanceOrder.mp (by rw [horder]; simp [hx])
  · exact hst.isFinalized_of_before hk horder hx

/-- The event sequences of each mission are numbered along the instance order. -/
theorem replay_numbered (hk : t.Keys) (hst : Structured t)
    (h : replayRows E t p t.instanceOrder = .ok s') :
    Numbered PendingRow.missionId PendingRow.eventSeq t.instanceOrder := by
  intro pre r post horder
  obtain ⟨s, u, -, hpassed, hu⟩ := replay_at hk hst h horder
  obtain ⟨l, e, hload, -, ha, -⟩ := replayStep_eq_ok.mp hu
  obtain ⟨r', hl⟩ := loadIntegrityLineage_some hload
  obtain rfl := hl.row_eq hk (mem_instanceOrder.mp (by rw [horder]; simp))
  exact hpassed.eventSeq_eq ha hl

end Replay

/-! ## Three ways to find the predecessors -/

section Predecessors

variable {t : E.Db} {rows pre post : List PendingRow} {s : Predecessors} {r : PendingRow}

/-- A row that was passed loads, finalized. -/
theorem Passed.loadFinalized_eq (h : Passed t rows s) {o : Option PendingRow}
    (ho : ∀ q, o = some q → q ∈ rows) (m : String) :
    loadFinalized E t o m = .ok (o.bind (lineageOf t)) := by
  cases o with
  | none => rfl
  | some q =>
    obtain ⟨l, c, hl, hf, -, -⟩ := h.finalized q (ho q rfl)
    rw [Option.bind_some, lineageOf_eq hl]
    refine bind_eq_ok.mpr ⟨some l, hl, unit_bind_eq_ok.mpr ⟨?_, rfl⟩⟩
    simpa using hf

theorem finalizedRows_perm : (t.instanceOrder.filter fun p => t.IsFinalized p.eventDigest).Perm
    t.finalizedRows :=
  (orderBy_perm (l := t.pending)).filter _

/-- The latest finalized transitions, found by descending queries, are the running
predecessors once the replay has passed every finalized row. -/
theorem previousIntegrityLineages_eq (hk : t.Keys) (hst : Structured t) (h : Passed t rows s)
    (hrows : t.instanceOrder.filter (fun p => t.IsFinalized p.eventDigest) = rows)
    (hpre : rows <+: t.instanceOrder) (m : Digest) :
    previousIntegrityLineages E t m = .ok (s.global, s.byMission.lookup m) := by
  have hperm : t.finalizedRows.Perm rows := hrows ▸ finalizedRows_perm.symm
  -- The instance sequences are the positions, so the top row is the last one.
  have hpos : Numbered (fun _ => ()) PendingRow.instanceSequence rows := by
    refine Numbered.of_positions fun a x b hab => ?_
    obtain ⟨c, hc⟩ := hpre
    have hsplit : t.instanceOrder = a ++ x :: (b ++ c) := by rw [← hc, hab]; simp
    exact hst.instanceSequence_eq hk hsplit
  have hglobal : topBy PendingRow.instanceSequence t.finalizedRows = rows.getLast? := by
    have htop := hpos.lastOf_eq_topBy (k := ()) hperm
    rw [lastOf_unit] at htop
    rw [← htop]
    simp
  have hmission := h.numbered.lastOf_eq_topBy (k := m) hperm
  unfold previousIntegrityLineages
  rw [hglobal, hmission, h.global, h.mission]
  refine bind_eq_ok.mpr ⟨_, h.loadFinalized_eq (fun q hq => List.mem_of_getLast? hq) _, ?_⟩
  refine bind_eq_ok.mpr ⟨_, h.loadFinalized_eq (fun q hq => (mem_of_lastOf hq).1) _, rfl⟩

/-- The finalized row with the instance sequence before that of a row is the row before
it in instance order. -/
theorem find_globalPredecessor (hk : t.Keys) (hst : Structured t)
    (horder : t.instanceOrder = pre ++ r :: post) :
    (t.finalizedRows.find? fun p => (p.instanceSequence : ℤ) = (r.instanceSequence : ℤ) - 1) =
      pre.getLast? := by
  have hr := hst.instanceSequence_eq hk horder
  rcases List.eq_nil_or_concat pre with rfl | ⟨a, q, rfl⟩
  · rw [List.getLast?_nil, List.find?_eq_none]
    intro x _
    simp only [decide_eq_true_eq, hr, List.length_nil]
    omega
  · rw [List.concat_eq_append] at horder hr ⊢
    rw [List.getLast?_append_of_ne_nil _ (by simp), List.getLast?_singleton]
    have hq : q.instanceSequence = a.length :=
      hst.instanceSequence_eq hk (show t.instanceOrder = a ++ q :: r :: post by simp [horder])
    have hmem : q ∈ t.pending := mem_instanceOrder.mp (by simp [horder])
    have hfin := hst.isFinalized_of_before hk horder (p := q) (by simp)
    rw [List.length_append, List.length_singleton] at hr
    refine find?_eq_some_of_unique (List.mem_filter.mpr ⟨hmem, by simpa using hfin⟩)
      (by simp only [decide_eq_true_eq]; omega) fun b hb hbq => ?_
    refine List.inj_on_of_nodup_map hk.pendingSequence (List.mem_filter.mp hb).1 hmem ?_
    simp only [decide_eq_true_eq] at hbq
    omega

/-- The finalized row of the mission with the event sequence before that of a row is
the last row of the mission before it. -/
theorem find_missionPredecessor (hk : t.Keys) (hst : Structured t)
    (hnum : Numbered PendingRow.missionId PendingRow.eventSeq t.instanceOrder)
    (horder : t.instanceOrder = pre ++ r :: post) :
    (t.finalizedRows.find? fun p => p.missionId = r.missionId ∧
        (p.eventSeq : ℤ) = (r.eventSeq : ℤ) - 1) =
      lastOf PendingRow.missionId r.missionId pre := by
  have hidx := hnum pre r post horder
  cases hl : lastOf PendingRow.missionId r.missionId pre with
  | none =>
    rw [hl, Option.elim_none] at hidx
    rw [List.find?_eq_none]
    intro x _
    simp only [decide_eq_true_eq, hidx, not_and]
    omega
  | some b =>
    rw [hl, Option.elim_some] at hidx
    obtain ⟨hb, hbm⟩ := mem_of_lastOf hl
    have hmem : b ∈ t.pending := mem_instanceOrder.mp (by simp [horder, hb])
    have hfin := hst.isFinalized_of_before hk horder hb
    refine find?_eq_some_of_unique (List.mem_filter.mpr ⟨hmem, by simpa using hfin⟩)
      (by simp only [decide_eq_true_eq]; exact ⟨hbm, by omega⟩) fun x hx hxq => ?_
    simp only [decide_eq_true_eq] at hxq
    refine List.inj_on_of_nodup_map hk.pendingMission (List.mem_filter.mp hx).1 hmem ?_
    rw [Prod.mk.injEq]
    exact ⟨hxq.1.trans hbm.symm, by omega⟩

/-- The predecessors found by index arithmetic are the running ones when the replay
reaches the row. In particular none is missing. -/
theorem predecessorLineages_eq (hk : t.Keys) (hst : Structured t) (hp : t.profile ≠ .legacy)
    (hnum : Numbered PendingRow.missionId PendingRow.eventSeq t.instanceOrder)
    (horder : t.instanceOrder = pre ++ r :: post) (h : Passed t pre s) :
    predecessorLineages E t r.eventDigest = .ok (s.global, s.byMission.lookup r.missionId) := by
  have hr : findBy PendingRow.eventDigest r.eventDigest t.pending = some r :=
    (findBy_eq_some hk.pendingDigest).mpr ⟨mem_instanceOrder.mp (by simp [horder]), rfl⟩
  have hnone : r.instanceSequence = 0 ↔ pre.getLast? = none := by
    rw [hst.instanceSequence_eq hk horder, List.getLast?_eq_none_iff, List.length_eq_zero_iff]
  have hmission : r.eventSeq = 0 ↔ lastOf PendingRow.missionId r.missionId pre = none :=
    (Numbered.lastOf_eq_none_iff (horder ▸ hnum)).symm
  unfold predecessorLineages
  refine unit_bind_eq_ok.mpr ⟨by simpa using hp, orRefuse_bind_eq_ok.mpr ⟨r, hr, ?_⟩⟩
  rw [find_globalPredecessor hk hst horder, find_missionPredecessor hk hst hnum horder]
  refine unit_bind_eq_ok.mpr ⟨?_, ?_⟩
  · rw [refuseIf_eq_ok]
    push Not
    exact ⟨hnone, hmission⟩
  · rw [h.global, h.mission]
    refine bind_eq_ok.mpr ⟨_, h.loadFinalized_eq (fun q hq => List.mem_of_getLast? hq) _, ?_⟩
    exact bind_eq_ok.mpr ⟨_, h.loadFinalized_eq (fun q hq => (mem_of_lastOf hq).1) _, rfl⟩

end Predecessors

end Etzio
