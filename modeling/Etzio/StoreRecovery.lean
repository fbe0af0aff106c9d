import Etzio.StoreAppends

/-!
# Blocks and decisions keep the block history acceptable

`ObservationWritten` and `DecisionWritten` are what the two writes of blocked-finality
recovery establish. Neither touches the replayed rows ; both leave a block history that
the replay accepts.
-/

open CheckedRun Rows

namespace Etzio

variable {E : Env}

/-! ## Blocks and decisions -/

section Recovery

variable {cap : ℕ} {t t' : E.Db} {profile : BlockedFinalityRecoveryProfileV1}

/-- A recovery profile is only enrolled in a modeled store. -/
theorem requireEnrolledRecoveryProfile_spec
    (h : requireEnrolledRecoveryProfile E t = .ok profile) :
    t.recoveryProfile ≠ none ∧ ∃ p, t.profile = .modeled p := by
  unfold requireEnrolledRecoveryProfile at h
  obtain ⟨r, hr, h⟩ := orRefuse_bind_eq_ok.mp h
  obtain ⟨hm, -⟩ := unit_bind_eq_ok.mp h
  refine ⟨by simp [hr], ?_⟩
  rw [refuseIf_eq_ok, not_or, not_not, not_not] at hm
  have hmatch := hm.2
  unfold recoveryProfileMatchesStore at hmatch
  cases hp : t.profile with
  | legacy => simp [hp] at hmatch
  | modeled p => exact ⟨p, rfl⟩

/-- In an accepted store with an enrolled profile the block history is acceptable. -/
theorem blockedHistory_of_enrolled (hb : validateBlockedFinalityState E t = .ok ())
    (h : requireEnrolledRecoveryProfile E t = .ok profile) : BlockedHistory t profile := by
  rcases validateBlockedFinalityState_eq_ok.mp hb with ⟨hr, -⟩ | ⟨-, profile', hbh⟩
  · exact absurd hr (requireEnrolledRecoveryProfile_spec h).1
  · obtain rfl : profile' = profile := Except.ok.inj (hbh.enrolled.symm.trans h)
    exact hbh

/-- What a new observation satisfies. -/
structure ObservationWritten (o : BlockedFinalityObservationV1) (t t' : E.Db) : Prop where
  eq : t' = { t with observations := t.observations ++
    [⟨o.eventDigest, o.attemptOrdinal, o.observationId, o.unresolvedPhase, o⟩] }
  enrolled : ∃ profile l, requireEnrolledRecoveryProfile E t = .ok profile ∧
    loadIntegrityLineage E t o.eventDigest = .ok (some l) ∧
    validateBlockedObservationLineageV1 E.integrity E.recovery profile o l true = .ok ()
  later : ∀ r ∈ t.observations, r.eventDigest = o.eventDigest → r.attemptOrdinal < o.attemptOrdinal
  notSealed : ¬t.Sealed
  fresh : ∀ r ∈ t.observations, r.observationId ≠ o.observationId ∧
    (r.eventDigest, r.attemptOrdinal) ≠ (o.eventDigest, o.attemptOrdinal)
  foreignKeys : t'.ForeignKeys E.vaultForeignKeys

theorem retainBlockedFinalityObservation_spec {o : BlockedFinalityObservationV1}
    {c : Commit E × BlockedFinalityObservationV1}
    (h : retainBlockedFinalityObservation E cap t o = .ok c) :
    Outcome o (∃ r ∈ t.observations, r.record = o) (ObservationWritten o t) c := by
  unfold retainBlockedFinalityObservation at h
  obtain ⟨profile, hp, h⟩ := bind_eq_ok.mp h
  cases hat : t.attempt o.eventDigest o.attemptOrdinal with
  | some r =>
    rw [hat] at h
    obtain ⟨hsame, h⟩ := unit_bind_eq_ok.mp h
    rw [refuseIf_eq_ok, not_or, not_not, not_not] at hsame
    rw [← Except.ok.inj h]
    exact .unchanged ⟨r, mem_of_findBy hat, hsame.2⟩
  | none =>
    rw [hat] at h
    obtain ⟨x, hx, h⟩ := bind_eq_ok.mp h
    obtain ⟨l, hl, h⟩ := orRefuse_bind_eq_ok.mp h
    obtain ⟨hv, h⟩ := unit_bind_eq_ok.mp h
    obtain ⟨hlater, h⟩ := unit_bind_eq_ok.mp h
    obtain ⟨-, h⟩ := unit_bind_eq_ok.mp h
    obtain ⟨u, hu, h⟩ := bind_eq_ok.mp h
    obtain ⟨w, hw, h⟩ := bind_eq_ok.mp h
    obtain ⟨hfk, heq⟩ := commit_eq_ok.mp hw
    rw [← Except.ok.inj h]
    rw [mapError_eq_ok] at hv hu
    unfold insertObservation at hu
    obtain ⟨-, hu⟩ := unit_bind_eq_ok.mp hu
    obtain ⟨hseal, hu⟩ := unit_bind_eq_ok.mp hu
    obtain ⟨hfresh, hu⟩ := unit_bind_eq_ok.mp hu
    have hu := Except.ok.inj hu
    rw [refuseIf_eq_ok] at hlater hseal hfresh
    push Not at hlater hfresh
    exact .wrote ⟨heq.trans hu.symm, ⟨profile, l, hp, hl ▸ hx, hv⟩,
      fun r hr hrd => hlater r hr hrd, hseal, hfresh, heq ▸ hfk⟩

theorem ObservationWritten.keys {o : BlockedFinalityObservationV1}
    (h : ObservationWritten o t t') (hk : t.Keys) : t'.Keys := by
  rw [h.eq]
  exact { hk with
    observationAttempt := nodup_map_snoc hk.observationAttempt fun r hr => (h.fresh r hr).2
    observationId := nodup_map_snoc hk.observationId fun r hr => (h.fresh r hr).1 }

/-- The rows of the blocked event end with the new one. -/
theorem ObservationWritten.observationRows_self {o : BlockedFinalityObservationV1}
    (h : ObservationWritten o t t') :
    t'.observationRows o.eventDigest = t.observationRows o.eventDigest ++
      [⟨o.eventDigest, o.attemptOrdinal, o.observationId, o.unresolvedPhase, o⟩] := by
  rw [Tables.observationRows, h.eq, Tables.observationRows, List.filter_append]
  simp only [List.filter_cons, List.filter_nil, decide_true, if_true]
  refine orderBy_snoc fun r hr => ?_
  obtain ⟨hr, hrd⟩ := List.mem_filter.mp hr
  exact (h.later r hr (by simpa using hrd)).le

/-- The rows of the other events are as they were. -/
theorem ObservationWritten.observationRows_of_ne {o : BlockedFinalityObservationV1}
    (h : ObservationWritten o t t') {x : Digest} (hx : x ≠ o.eventDigest) :
    t'.observationRows x = t.observationRows x := by
  rw [Tables.observationRows, h.eq, Tables.observationRows, List.filter_append]
  simp [hx.symm]

/-- The block history with a new latest observation, which names the current phase. -/
theorem ObservationWritten.blocked {o : BlockedFinalityObservationV1}
    (h : ObservationWritten o t t') (hb : validateBlockedFinalityState E t = .ok ()) :
    validateBlockedFinalityState E t' = .ok () := by
  obtain ⟨profile, l, henr, hl, hv⟩ := h.enrolled
  have hbh := blockedHistory_of_enrolled hb henr
  have heq := h.eq
  have henr' : requireEnrolledRecoveryProfile E t' = .ok profile := by rw [heq]; exact henr
  have hload (x : Digest) : loadIntegrityLineage E t' x = loadIntegrityLineage E t x := by
    rw [heq]; rfl
  have hother := fun x => h.observationRows_of_ne (x := x)
  have hown := h.observationRows_self
  have hvalid : validateBlockedObservationLineageV1 E.integrity E.recovery profile o l false =
      .ok () ∧ o.unresolvedPhase.lineagePhase = l.phase := by
    unfold validateBlockedObservationLineageV1 at hv ⊢
    obtain ⟨h1, hv⟩ := unit_bind_eq_ok.mp hv
    obtain ⟨h2, h3⟩ := unit_bind_eq_ok.mp hv
    exact ⟨unit_bind_eq_ok.mpr ⟨h1, unit_bind_eq_ok.mpr ⟨h2, by simp⟩⟩, by simpa using h3⟩
  have hmem : ∀ r ∈ t'.observations, r ∈ t.observations ∨ r.eventDigest = o.eventDigest := by
    intro r hr
    rw [heq] at hr
    exact (List.mem_append.mp hr).imp_right fun hr => by rw [List.mem_singleton.mp hr]
  rw [validateBlockedFinalityState_eq_ok]
  refine .inr ⟨by rw [heq]; exact (requireEnrolledRecoveryProfile_spec henr).1, profile, henr',
    ?_, ?_, ?_⟩
  · intro r hr
    by_cases hrd : r.eventDigest = o.eventDigest
    · rw [hrd]
      refine ⟨_, (blockedObservations_eq_ok henr' ((hload _).trans hl)).mpr ⟨fun y hy => ?_, rfl⟩⟩
      rw [hown] at hy
      rcases List.mem_append.mp hy with hy | hy
      · obtain ⟨os, hos⟩ := hbh.observations y (mem_observationRows.mp hy).1
        rw [(mem_observationRows.mp hy).2] at hos
        exact ((blockedObservations_eq_ok henr hl).mp hos).1 y hy
      · rw [List.mem_singleton.mp hy]
        exact unit_bind_eq_ok.mpr ⟨by simp, mapError_eq_ok.mpr hvalid.1⟩
    · have hr := (hmem r hr).resolve_right hrd
      obtain ⟨os, hos⟩ := hbh.observations r hr
      refine ⟨os, ?_⟩
      unfold blockedObservations at hos ⊢
      rw [hother _ hrd, henr', ← henr, hload]
      exact hos
  · intro r hr
    rw [heq] at hr
    have hsome : (findBy ObservationRow.observationId r.blockedObservationId
        t.observations).isSome := by
      obtain ⟨⟨y, hy, -⟩, -⟩ := checkDecisionRow_spec (hbh.decisions r hr)
      rw [hy]
      rfl
    have hc : checkDecisionRow E t' profile r = checkDecisionRow E t profile r :=
      checkDecisionRow_eq (fun hs => h.notSealed ⟨r, hr, hs⟩)
        (by rw [heq]; exact findBy_append_of_isSome hsome)
    rw [hc]
    exact hbh.decisions r hr
  · intro r hr
    rw [checkLatestObservation_eq_ok]
    by_cases hrd : r.eventDigest = o.eventDigest
    · rw [hrd]
      refine ⟨l, ⟨o.eventDigest, o.attemptOrdinal, o.observationId, o.unresolvedPhase, o⟩,
        (hload _).trans hl, ?_, .inl hvalid.2.symm⟩
      rw [Tables.latestObservation, hown]
      simp
    · have hr := (hmem r hr).resolve_right hrd
      obtain ⟨y, z, hy, hz, hyz⟩ := checkLatestObservation_eq_ok.mp (hbh.latest r hr)
      refine ⟨y, z, (hload _).trans hy, ?_, ?_⟩
      · rw [Tables.latestObservation, hother _ hrd]
        exact hz
      · rw [Tables.dispositionOf, heq]
        exact hyz

/-- What a new recovery decision satisfies. -/
structure DecisionWritten (signed : SignedGovernedRecoveryDecisionV1) (t t' : E.Db) : Prop where
  eq : t' = { t with decisions := t.decisions ++ [⟨signed.decision.decisionId,
    signed.decision.eventDigest, signed.decision.blockedObservationId,
    signed.decision.disposition, signed⟩] }
  enrolled : ∃ profile l os, requireEnrolledRecoveryProfile E t = .ok profile ∧
    loadIntegrityLineage E t signed.decision.eventDigest = .ok (some l) ∧
    l.finalization = none ∧ blockedObservations E t signed.decision.eventDigest = .ok os ∧
    resolveBlockedFinalityV1 E.recovery profile os l.phase (l.phaseRecordId E.integrity) signed =
      .ok signed.decision
  notSealed : ¬t.Sealed
  fresh : ∀ r ∈ t.decisions, r.decisionId ≠ signed.decision.decisionId ∧
    r.blockedObservationId ≠ signed.decision.blockedObservationId
  foreignKeys : t'.ForeignKeys E.vaultForeignKeys

theorem retainGovernedRecoveryDecision_spec {signed : SignedGovernedRecoveryDecisionV1}
    {c : Commit E × Digest} (h : retainGovernedRecoveryDecision E cap t signed = .ok c) :
    Outcome signed.decision.decisionId (∃ r ∈ t.decisions, r.record = signed)
      (DecisionWritten signed t) c := by
  unfold retainGovernedRecoveryDecision at h
  obtain ⟨profile, hp, h⟩ := bind_eq_ok.mp h
  obtain ⟨d, hd, hrest⟩ := bind_eq_ok.mp h
  rw [mapError_eq_ok] at hd
  obtain rfl := authenticateRecoveryDecisionV1_decision hd
  cases hat : findBy DecisionRow.decisionId signed.decision.decisionId t.decisions with
  | some r =>
    rw [hat] at hrest
    obtain ⟨hsame, hrest⟩ := unit_bind_eq_ok.mp hrest
    rw [refuseIf_eq_ok, not_not] at hsame
    rw [← Except.ok.inj hrest]
    exact .unchanged ⟨r, mem_of_findBy hat, hsame⟩
  | none =>
    rw [hat] at hrest
    obtain ⟨os, hos, hrest⟩ := bind_eq_ok.mp hrest
    obtain ⟨x, hx, hrest⟩ := bind_eq_ok.mp hrest
    obtain ⟨l, hl, hrest⟩ := orRefuse_bind_eq_ok.mp hrest
    obtain ⟨hopen, hrest⟩ := unit_bind_eq_ok.mp hrest
    obtain ⟨y, hy, hrest⟩ := bind_eq_ok.mp hrest
    obtain ⟨-, hrest⟩ := unit_bind_eq_ok.mp hrest
    obtain ⟨u, hu, hrest⟩ := bind_eq_ok.mp hrest
    obtain ⟨w, hw, hrest⟩ := bind_eq_ok.mp hrest
    obtain ⟨hfk, heq⟩ := commit_eq_ok.mp hw
    rw [← Except.ok.inj hrest]
    rw [mapError_eq_ok] at hy hu
    obtain ⟨-, -, -, hauth, -⟩ := resolveBlockedFinalityV1_eq_ok.mp hy
    obtain rfl := authenticateRecoveryDecisionV1_decision hauth
    unfold insertDecision at hu
    obtain ⟨hseal, hu⟩ := unit_bind_eq_ok.mp hu
    obtain ⟨-, hu⟩ := unit_bind_eq_ok.mp hu
    obtain ⟨hfresh, hu⟩ := unit_bind_eq_ok.mp hu
    have hu := Except.ok.inj hu
    rw [refuseIf_eq_ok] at hopen hseal hfresh
    push Not at hopen hfresh
    exact .wrote ⟨heq.trans hu.symm, ⟨profile, l, os, hp, hl ▸ hx, hopen, hos, hy⟩, hseal, hfresh,
      heq ▸ hfk⟩

theorem DecisionWritten.keys {signed : SignedGovernedRecoveryDecisionV1}
    (h : DecisionWritten signed t t') (hk : t.Keys) : t'.Keys := by
  rw [h.eq]
  exact { hk with
    decisionId := nodup_map_snoc hk.decisionId fun r hr => (h.fresh r hr).1
    decisionObservation := nodup_map_snoc hk.decisionObservation fun r hr => (h.fresh r hr).2 }

/-- An answered observation stays answered as it was. -/
theorem DecisionWritten.dispositionOf_of_some {signed : SignedGovernedRecoveryDecisionV1}
    (h : DecisionWritten signed t t') {i : Digest} {x : Disposition}
    (hx : t.dispositionOf i = some x) : t'.dispositionOf i = some x := by
  rw [Tables.dispositionOf] at hx ⊢
  obtain ⟨r, hr, hrx⟩ := Option.map_eq_some_iff.mp hx
  rw [h.eq]
  refine Option.map_eq_some_iff.mpr ⟨r, ?_, hrx⟩
  exact (findBy_append_of_isSome (by rw [hr]; rfl)).trans hr

/-- The transition with an unfinalized lineage is the unresolved one. -/
theorem Structured.unresolved_of_unfinalized (hk : t.Keys) (hs : Structured t) {d : Digest}
    {l : IntegrityLineageV1} (hl : loadIntegrityLineage E t d = .ok (some l))
    (hf : l.finalization = none) : unresolvedIntegrityDigest t = .ok (some d) := by
  obtain ⟨r, hlf⟩ := loadIntegrityLineage_some hl
  have hd : r.eventDigest = d := key_of_findBy hlf.row
  have hmem : r ∈ t.pending := mem_of_findBy hlf.row
  have hopen : ¬t.IsFinalized r.eventDigest := fun hfin =>
    hlf.finalization_ne_none.mpr (hd ▸ hfin) hf
  rcases hs.order_cases hk with ⟨-, -, hall⟩ | ⟨init, y, horder, hu, -, hinit, -⟩
  · exact absurd (hall r hmem) hopen
  · have hy : r = y := by
      rw [← mem_instanceOrder, horder] at hmem
      rcases List.mem_append.mp hmem with hmem | hmem
      · exact absurd (hinit r hmem) hopen
      · exact List.mem_singleton.mp hmem
    rw [unresolvedIntegrityDigest, hu]
    exact congrArg (fun x => Except.ok (some x)) (hy ▸ hd)

/-- The block history with a new decision. A seal fences the unresolved transition,
whose latest observation it answers. -/
theorem DecisionWritten.blocked {signed : SignedGovernedRecoveryDecisionV1}
    (h : DecisionWritten signed t t') (hk : t.Keys) (hs : Structured t)
    (hb : validateBlockedFinalityState E t = .ok ()) :
    validateBlockedFinalityState E t' = .ok () := by
  obtain ⟨profile, l, os, henr, hl, hopen, hos, hres⟩ := h.enrolled
  have hbh := blockedHistory_of_enrolled hb henr
  have heq := h.eq
  have henr' : requireEnrolledRecoveryProfile E t' = .ok profile := by rw [heq]; exact henr
  have hload (x : Digest) : loadIntegrityLineage E t' x = loadIntegrityLineage E t x := by
    rw [heq]; rfl
  -- The decision answers the latest observation of its event.
  obtain ⟨hchecked, rfl⟩ := (blockedObservations_eq_ok henr hl).mp hos
  obtain ⟨latest, hlatest, hsingle⟩ := resolveBlockedFinalityV1_singleton hres
  rw [List.getLast?_map] at hlatest
  obtain ⟨o, ho, rfl⟩ := Option.map_eq_some_iff.mp hlatest
  obtain ⟨homem, hod⟩ := mem_observationRows.mp (List.mem_of_getLast? ho)
  have hoid := (checkObservationRow_index (hchecked o (List.mem_of_getLast? ho))).2.2.1
  have hans : signed.decision.blockedObservationId = o.observationId := by
    obtain ⟨x, hx, -, -, hid, -⟩ := resolveBlockedFinalityV1_eq_ok.mp hsingle
    obtain rfl : o.record = x := by simpa using hx
    exact hid.trans hoid
  have hfind : findBy ObservationRow.observationId signed.decision.blockedObservationId
      t.observations = some o := (findBy_eq_some hk.observationId).mpr ⟨homem, hans.symm⟩
  rw [validateBlockedFinalityState_eq_ok]
  refine .inr ⟨by rw [heq]; exact (requireEnrolledRecoveryProfile_spec henr).1, profile, henr',
    ?_, ?_, ?_⟩
  · intro r hr
    rw [heq] at hr ⊢
    exact hbh.observations r hr
  · intro r hr
    rw [heq] at hr
    rcases List.mem_append.mp hr with hr | hr
    · have hc : checkDecisionRow E t' profile r = checkDecisionRow E t profile r :=
        checkDecisionRow_eq (fun hsealed => h.notSealed ⟨r, hr, hsealed⟩) (by rw [heq])
      rw [hc]
      exact hbh.decisions r hr
    · obtain rfl := List.mem_singleton.mp hr
      refine orRefuse_bind_eq_ok.mpr ⟨o, by rw [heq]; exact hfind, bind_eq_ok.mpr
        ⟨signed.decision, mapError_eq_ok.mpr hsingle, unit_bind_eq_ok.mpr ⟨by simp, ?_⟩⟩⟩
      split_ifs with hsealed
      · refine bind_eq_ok.mpr ⟨some l, (hload _).trans hl, orRefuse_bind_eq_ok.mpr ⟨l, rfl,
          bind_eq_ok.mpr ⟨some signed.decision.eventDigest, ?_, ?_⟩⟩⟩
        · have hu := hs.unresolved_of_unfinalized hk hl hopen
          rw [heq]
          exact hu
        · have hlast : t'.latestObservation signed.decision.eventDigest = some o := by
            rw [heq]
            exact ho
          rw [refuseIf_eq_ok, hlast]
          simp [hans, hopen]
      · rfl
  · intro r hr
    rw [heq] at hr
    obtain ⟨y, z, hy, hz, hyz⟩ := checkLatestObservation_eq_ok.mp (hbh.latest r hr)
    refine checkLatestObservation_eq_ok.mpr ⟨y, z, (hload _).trans hy, ?_,
      hyz.imp_right h.dispositionOf_of_some⟩
    rw [heq]
    exact hz

end Recovery

end Etzio
