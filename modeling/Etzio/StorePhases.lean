import Etzio.StoreAcceptance

/-!
# Phase writes keep the store acceptable

An anchor statement, a checkpoint candidate or a finalization is checked against
predecessors found by query, and the rest of the history is not looked at again.
`PhaseWritten` collects what the three writes establish, and `PhaseWritten.accepted`
says that the full replay accepts the result : rows of other events load as before, and
the extended lineage is the last one of the replay.
-/

open CheckedRun Rows

namespace Etzio

variable {E : Env}

/-! ## Phases -/

section Phases

variable {t t' : E.Db} {d : Digest} {phase : EvidencePhase} {l l' : IntegrityLineageV1}

/-- `l'` retains every record of `l`. -/
structure IntegrityLineageV1.Extends (l l' : IntegrityLineageV1) : Prop where
  pending : l'.pending = l.pending
  anchor : ∀ a, l.anchorStatement = some a → l'.anchorStatement = some a
  candidate : ∀ c, l.checkpointCandidate = some c → l'.checkpointCandidate = some c

/-- What a phase write did : it added the record of one phase to the unresolved
transition, under the rules for a blocked one, and the extended lineage passes every
check its parts have passed. -/
structure PhaseWritten (d : Digest) (phase : EvidencePhase) (l l' : IntegrityLineageV1)
    (t t' : E.Db) : Prop where
  grows : Grows d t t'
  events : t'.events = t.events
  pending : t'.pending = t.pending
  finalizations : t'.finalizations = t.finalizations ∨
    ∃ f, t'.finalizations = t.finalizations ++ [f] ∧ f.eventDigest = d
  evidence : EvidenceAdded d phase t t'
  hasPhase : t'.HasPhase phase d
  keys : t.Keys → t'.Keys
  foreignKeys : t'.ForeignKeys E.vaultForeignKeys
  governed : requireGovernedPhaseWrite E t l = .ok ()
  unresolved : unresolvedIntegrityDigest t = .ok (some d)
  loaded : loadIntegrityLineage E t' d = .ok (some l')
  longer : l.Extends l'
  authenticated : ∀ p e g m, t.profile = .modeled p → eventForIntegrityDigest E t d = .ok e →
    previousIntegrityLineages E t l.pending.missionId = .ok (g, m) → Authenticated t p e l g m →
    Authenticated t p e l' g m

/-- The unresolved transition is the last row of the instance order. -/
theorem Structured.unresolved_last (hk : t.Keys) (hs : Structured t)
    (h : unresolvedIntegrityDigest t = .ok (some d)) :
    ∃ init r, t.instanceOrder = init ++ [r] ∧ r.eventDigest = d ∧
      t.pending.length = t.finalizations.length + 1 ∧
      (∀ p ∈ init, t.IsFinalized p.eventDigest) ∧ ¬t.IsFinalized d := by
  unfold unresolvedIntegrityDigest at h
  rcases hs.order_cases hk with ⟨hu, -⟩ | ⟨init, r, horder, hu, hlen, hinit, hr⟩
  · rw [hu] at h
    simp at h
  · rw [hu] at h
    obtain rfl : r.eventDigest = d := Option.some.inj (Except.ok.inj h)
    exact ⟨init, r, horder, rfl, hlen, hinit, hr⟩

theorem PhaseWritten.structured (h : PhaseWritten d phase l l' t t') (hk : t.Keys)
    (hs : Structured t) : Structured t' := by
  obtain ⟨init, r, horder, hrd, hlen, hinit, hopen⟩ := hs.unresolved_last hk h.unresolved
  have hmem : r ∈ t.pending := mem_instanceOrder.mp (by simp [horder])
  refine .of_core (h.keys hk) h.foreignKeys (by rw [h.events, h.pending, hs.count])
    (by rw [h.events, h.pending]; exact hs.event) (by rw [h.pending]; exact hs.rank) ?_ ?_
    (h.evidence.noOrphan h.grows hs) (h.evidence.hasPhase h.grows hs h.hasPhase)
  · rcases h.finalizations with hf | ⟨f, hf, -⟩
    · rw [h.pending, hf]
      exact hs.openOne
    · rw [h.pending, hf, List.length_append, List.length_singleton]
      exact .inl hlen
  · intro p hp hlt
    rw [h.pending] at hp
    rcases h.finalizations with hf | ⟨f, hf, hfd⟩
    · rw [hf] at hlt
      obtain ⟨x, hx, hxp⟩ := hs.finalizedPrefix p hp hlt
      exact ⟨x, h.grows.finalizations.mem hx, hxp⟩
    · rw [hf, List.length_append, List.length_singleton] at hlt
      by_cases hpf : p.instanceSequence < t.finalizations.length
      · obtain ⟨x, hx, hxp⟩ := hs.finalizedPrefix p hp hpf
        exact ⟨x, h.grows.finalizations.mem hx, hxp⟩
      · -- The only other row is the unresolved one, which was just finalized.
        have hidx := hs.instanceSequence_eq hk horder
        have hlo : t.instanceOrder.length = t.pending.length := length_orderBy
        rw [horder, List.length_append, List.length_singleton] at hlo
        obtain rfl : p = r := List.inj_on_of_nodup_map hk.pendingSequence hp hmem (by omega)
        exact ⟨f, by rw [hf]; simp, hfd.trans hrd.symm⟩

/-- The replay of the extended lineage : everything before it is as it was, and it is
authenticated against the same predecessors. -/
theorem PhaseWritten.replayed (h : PhaseWritten d phase l l' t t') (hk : t.Keys)
    {p : ModeledProfile} (hp : t.profile = .modeled p) (hacc : ModeledAccepted t p)
    (hl : loadIntegrityLineage E t d = .ok (some l)) :
    ∃ s, replayRows E t' p t'.instanceOrder = .ok s := by
  have hs := hacc.structured
  obtain ⟨init, r, horder, hrd, -, hinit, hopen⟩ := hs.unresolved_last hk h.unresolved
  obtain ⟨s', hs'⟩ := hacc.replayed
  obtain ⟨s, u, hrep, hpassed, hu⟩ := replay_at hk hs hs' horder
  obtain ⟨x, e, hx, he, ha, -⟩ := replayStep_eq_ok.mp hu
  rw [hrd] at hx he
  obtain rfl : x = l := Option.some.inj (Except.ok.inj (hx.symm.trans hl))
  obtain ⟨r', hlf⟩ := loadIntegrityLineage_some hl
  have hmem : r ∈ t.pending := mem_instanceOrder.mp (by simp [horder])
  obtain rfl : r' = r := LoadedFrom.row_eq hk hmem (hrd ▸ hlf)
  have hmission : e.missionId = x.pending.missionId := by
    rw [(ha.coordinates (hrd ▸ hlf)).1, hlf.pending, hlf.agrees.2.1]
  -- The write found its predecessors by query : they are the running ones.
  have hrows : (t.instanceOrder.filter fun p => t.IsFinalized p.eventDigest) = init := by
    rw [horder, List.filter_append, List.filter_eq_self.mpr (by simpa using hinit)]
    simp [hrd, hopen]
  have hprev := previousIntegrityLineages_eq hk hs hpassed hrows ⟨[r'], horder.symm⟩
    x.pending.missionId
  have ha' := h.authenticated p e _ _ hp he hprev (by rwa [← hmission])
  have hpre : ∀ y ∈ init, y.eventDigest ≠ d := by
    intro y hy hyd
    exact hopen (hyd ▸ hinit y hy)
  have horder' : t'.instanceOrder = init ++ [r'] := by
    rw [Tables.instanceOrder, h.pending]
    exact horder
  have he' : eventForIntegrityDigest E t' d = .ok e := by
    rw [eventForIntegrityDigest, h.events]
    exact he
  refine ⟨if l'.finalization = none then s else ⟨some l', s.byMission.insert e.missionId l'⟩, ?_⟩
  rw [horder', replayRows, foldlM_append_eq_ok]
  refine ⟨s, ?_, foldlM_singleton_eq_ok.mpr (replayStep_eq_ok.mpr ⟨l', e, ?_, ?_, ?_, rfl⟩)⟩
  · rw [foldlM_congr fun a ha s => h.grows.replayStep_eq hacc.foreignKeys p (hpre a ha) s]
    exact hrep
  · rw [hrd]
    exact h.loaded
  · rw [hrd]
    exact he'
  · rw [← authenticateRetained_eq_ok, authenticateRetained_eq h.grows.profile
      h.grows.acceptanceProfile, authenticateRetained_eq_ok, hmission]
    exact ha'

end Phases

/-! ## The block history after a write -/

section Blocked

variable {t t' : E.Db} {d : Digest} {l l' : IntegrityLineageV1}
  {profile : BlockedFinalityRecoveryProfileV1}

theorem mem_observationRows {o : ObservationRow} :
    o ∈ t.observationRows d ↔ o ∈ t.observations ∧ o.eventDigest = d := by
  rw [Tables.observationRows, mem_orderBy, List.mem_filter, decide_eq_true_eq]

theorem mem_of_latestObservation {o : ObservationRow} (h : t.latestObservation d = some o) :
    o ∈ t.observations ∧ o.eventDigest = d :=
  mem_observationRows.mp (List.mem_of_getLast? h)

/-- The observations of a blocked event are those of its rows, each checked against the
event's lineage. -/
theorem blockedObservations_eq_ok (henr : requireEnrolledRecoveryProfile E t = .ok profile)
    (hl : loadIntegrityLineage E t d = .ok (some l)) {os : List BlockedFinalityObservationV1} :
    blockedObservations E t d = .ok os ↔
      (∀ o ∈ t.observationRows d, checkObservationRow E profile l d o = .ok ()) ∧
        os = (t.observationRows d).map ObservationRow.record := by
  unfold blockedObservations
  split_ifs with hnil
  · rw [hnil, Except.ok.injEq]
    simp [eq_comm]
  · constructor
    · intro h
      obtain ⟨profile', hp, h⟩ := bind_eq_ok.mp h
      obtain ⟨x, hx, h⟩ := bind_eq_ok.mp h
      obtain ⟨y, hy, h⟩ := orRefuse_bind_eq_ok.mp h
      obtain ⟨hf, h⟩ := unit_bind_eq_ok.mp h
      obtain rfl : profile' = profile := Except.ok.inj (hp.symm.trans henr)
      obtain rfl : y = l := by
        rw [hl, hy] at hx
        exact (Option.some.inj (Except.ok.inj hx)).symm
      exact ⟨forM_eq_ok.mp hf, (Except.ok.inj h).symm⟩
    · rintro ⟨hf, rfl⟩
      exact bind_eq_ok.mpr ⟨profile, henr, bind_eq_ok.mpr ⟨some l, hl, orRefuse_bind_eq_ok.mpr
        ⟨l, rfl, unit_bind_eq_ok.mpr ⟨forM_eq_ok.mpr hf, rfl⟩⟩⟩⟩

theorem checkLatestObservation_eq_ok :
    checkLatestObservation E t d = .ok () ↔ ∃ l o, loadIntegrityLineage E t d = .ok (some l) ∧
      t.latestObservation d = some o ∧ (l.phase = o.record.unresolvedPhase.lineagePhase ∨
        t.dispositionOf o.observationId = some .retryAuthorized) := by
  unfold checkLatestObservation
  constructor
  · intro h
    obtain ⟨x, hx, h⟩ := bind_eq_ok.mp h
    obtain ⟨l, hl, h⟩ := orRefuse_bind_eq_ok.mp h
    obtain ⟨o, ho, h⟩ := orRefuse_bind_eq_ok.mp h
    rw [refuseIf_eq_ok] at h
    push Not at h
    exact ⟨l, o, hl ▸ hx, ho, or_iff_not_imp_left.mpr h⟩
  · rintro ⟨l, o, hl, ho, h⟩
    refine bind_eq_ok.mpr ⟨some l, hl, orRefuse_bind_eq_ok.mpr ⟨l, rfl,
      orRefuse_bind_eq_ok.mpr ⟨o, ho, ?_⟩⟩⟩
    rw [refuseIf_eq_ok]
    push Not
    exact or_iff_not_imp_left.mp h

/-- What a retained decision that passed its check says. -/
theorem checkDecisionRow_spec {r : DecisionRow} (h : checkDecisionRow E t profile r = .ok ()) :
    (∃ o, findBy ObservationRow.observationId r.blockedObservationId t.observations = some o ∧
      resolveBlockedFinalityV1 E.recovery profile [o.record]
        o.record.unresolvedPhase.lineagePhase o.record.unresolvedPhaseRecordId r.record =
          .ok r.record.decision) ∧
      r.record.decision.decisionId = r.decisionId ∧
      r.record.decision.eventDigest = r.eventDigest ∧
      r.record.decision.blockedObservationId = r.blockedObservationId ∧
      r.record.decision.disposition = r.disposition := by
  unfold checkDecisionRow at h
  obtain ⟨o, ho, h⟩ := orRefuse_bind_eq_ok.mp h
  obtain ⟨x, hx, h⟩ := bind_eq_ok.mp h
  obtain ⟨hidx, -⟩ := unit_bind_eq_ok.mp h
  rw [mapError_eq_ok] at hx
  obtain ⟨-, -, -, hauth, -⟩ := resolveBlockedFinalityV1_eq_ok.mp hx
  obtain rfl := authenticateRecoveryDecisionV1_decision hauth
  rw [refuseIf_eq_ok, not_not, Prod.mk.injEq, Prod.mk.injEq, Prod.mk.injEq] at hidx
  exact ⟨⟨o, ho, hx⟩, hidx⟩

/-- A decision that seals nothing is checked against its observation only. -/
theorem checkDecisionRow_eq {r : DecisionRow} (hr : r.disposition ≠ .instanceSealed)
    (ho : findBy ObservationRow.observationId r.blockedObservationId t'.observations =
      findBy ObservationRow.observationId r.blockedObservationId t.observations) :
    checkDecisionRow E t' profile r = checkDecisionRow E t profile r := by
  unfold checkDecisionRow
  rw [ho]
  simp only [if_neg hr]

/-- The columns of a checked observation row are those of its record. -/
theorem checkObservationRow_index {o : ObservationRow}
    (h : checkObservationRow E profile l d o = .ok ()) :
    o.record.eventDigest = d ∧ o.record.attemptOrdinal = o.attemptOrdinal ∧
      o.record.observationId = o.observationId ∧ o.record.unresolvedPhase = o.unresolvedPhase := by
  unfold checkObservationRow at h
  obtain ⟨h, -⟩ := unit_bind_eq_ok.mp h
  rw [refuseIf_eq_ok, not_not, Prod.mk.injEq, Prod.mk.injEq, Prod.mk.injEq] at h
  exact h

/-- The event of a phase write is not blocked, or its latest block was answered by an
authorized retry. -/
theorem requireGovernedPhaseWrite_spec (hb : BlockedHistory t profile)
    (hl : loadIntegrityLineage E t l.pending.eventDigest = .ok (some l))
    (h : requireGovernedPhaseWrite E t l = .ok ()) {o : ObservationRow}
    (ho : t.latestObservation l.pending.eventDigest = some o) :
    t.dispositionOf o.observationId = some .retryAuthorized := by
  unfold requireGovernedPhaseWrite at h
  obtain ⟨-, h⟩ := unit_bind_eq_ok.mp h
  obtain ⟨os, hos, h⟩ := bind_eq_ok.mp h
  obtain ⟨hchecked, rfl⟩ := (blockedObservations_eq_ok hb.enrolled hl).mp hos
  have hlast : ((t.observationRows l.pending.eventDigest).map ObservationRow.record).getLast? =
      some o.record := by
    rw [List.getLast?_map]
    exact congrArg (Option.map ObservationRow.record) ho
  have hid := (checkObservationRow_index (hchecked o (List.mem_of_getLast? ho))).2.2.1
  rw [hlast] at h
  obtain ⟨row, hrow, h⟩ := orRefuse_bind_eq_ok.mp h
  obtain ⟨profile', hp', h⟩ := bind_eq_ok.mp h
  obtain ⟨x, hx, h⟩ := bind_eq_ok.mp h
  rw [refuseIf_eq_ok, not_not] at h
  rw [mapError_eq_ok] at hx
  obtain ⟨-, -, -, hauth, -⟩ := resolveBlockedFinalityV1_eq_ok.mp hx
  obtain rfl := authenticateRecoveryDecisionV1_decision hauth
  obtain ⟨-, -, -, -, hdisp⟩ := checkDecisionRow_spec (hb.decisions row (mem_of_findBy hrow))
  rw [hid] at hrow
  rw [Tables.dispositionOf, hrow, Option.map_some, ← hdisp, h]

/-- An observation stays valid when its lineage advances. -/
theorem checkObservationRow_extends (h : l.Extends l') {o : ObservationRow}
    (ho : checkObservationRow E profile l d o = .ok ()) :
    checkObservationRow E profile l' d o = .ok () := by
  unfold checkObservationRow at ho ⊢
  obtain ⟨hidx, hv⟩ := unit_bind_eq_ok.mp ho
  refine unit_bind_eq_ok.mpr ⟨hidx, mapError_eq_ok.mpr ?_⟩
  rw [mapError_eq_ok] at hv
  unfold validateBlockedObservationLineageV1 at hv ⊢
  rw [h.pending]
  obtain ⟨hbinds, hv⟩ := unit_bind_eq_ok.mp hv
  obtain ⟨hrec, -⟩ := unit_bind_eq_ok.mp hv
  refine unit_bind_eq_ok.mpr ⟨hbinds, unit_bind_eq_ok.mpr ⟨?_, by simp⟩⟩
  rw [refuseIf_eq_ok, not_not] at hrec ⊢
  unfold IntegrityLineageV1.phaseRecord at hrec ⊢
  split at hrec
  · rw [h.pending]
    exact hrec
  · obtain ⟨a, ha, hid⟩ := Option.map_eq_some_iff.mp hrec
    rw [h.anchor a ha, Option.map_some, hid]
  · obtain ⟨c, hc, hid⟩ := Option.map_eq_some_iff.mp hrec
    rw [h.candidate c hc, Option.map_some, hid]

/-- The block history is acceptable after a write for an event, once that event's own
part of it is. -/
theorem Grows.blocked (hg : Grows d t t') (hfk : t.ForeignKeys E.vaultForeignKeys)
    (hb : validateBlockedFinalityState E t = .ok ()) (hseal : ¬t.Sealed)
    (hown : ∀ profile, BlockedHistory t profile → ∀ o ∈ t.observations, o.eventDigest = d →
      (∃ os, blockedObservations E t' d = .ok os) ∧ checkLatestObservation E t' d = .ok ()) :
    validateBlockedFinalityState E t' = .ok () := by
  rw [validateBlockedFinalityState_eq_ok] at hb ⊢
  rw [hg.recoveryProfile, hg.observations, hg.decisions]
  refine hb.imp_right fun ⟨hr, profile, h⟩ => ⟨hr, profile, ?_⟩
  refine ⟨?_, ?_, ?_, ?_⟩
  · rw [requireEnrolledRecoveryProfile_eq hg.profile hg.recoveryProfile]
    exact h.enrolled
  · intro o ho
    rw [hg.observations] at ho
    by_cases hod : o.eventDigest = d
    · rw [hod]
      exact (hown profile h o ho hod).1
    · rw [hg.blockedObservations_eq hfk hod]
      exact h.observations o ho
  · intro r hr
    rw [hg.decisions] at hr
    have hc : checkDecisionRow E t' profile r = checkDecisionRow E t profile r :=
      checkDecisionRow_eq (fun hs => hseal ⟨r, hr, hs⟩) (by rw [hg.observations])
    rw [hc]
    exact h.decisions r hr
  · intro o ho
    rw [hg.observations] at ho
    by_cases hod : o.eventDigest = d
    · rw [hod]
      exact (hown profile h o ho hod).2
    · have hl := checkLatestObservation_eq_ok.mp (h.latest o ho)
      rw [checkLatestObservation_eq_ok]
      rw [hg.loadIntegrityLineage_eq hfk hod, Tables.latestObservation, hg.observationRows_eq]
      simp only [Tables.dispositionOf, hg.decisions]
      exact hl

/-- The block history after a phase write. -/
theorem PhaseWritten.blocked {phase : EvidencePhase} (h : PhaseWritten d phase l l' t t')
    (hfk : t.ForeignKeys E.vaultForeignKeys) (hb : validateBlockedFinalityState E t = .ok ())
    (hl : loadIntegrityLineage E t d = .ok (some l)) :
    validateBlockedFinalityState E t' = .ok () := by
  have hd : l.pending.eventDigest = d := by
    obtain ⟨r, hlf⟩ := loadIntegrityLineage_some hl
    rw [hlf.pending, hlf.agrees.1]
    exact key_of_findBy hlf.row
  have hseal : ¬t.Sealed := by
    have hg := h.governed
    unfold requireGovernedPhaseWrite at hg
    simpa using (unit_bind_eq_ok.mp hg).1
  refine h.grows.blocked hfk hb hseal fun profile hbh o ho hod => ?_
  have henr : requireEnrolledRecoveryProfile E t' = .ok profile := by
    rw [requireEnrolledRecoveryProfile_eq h.grows.profile h.grows.recoveryProfile]
    exact hbh.enrolled
  obtain ⟨os, hos⟩ := hbh.observations o ho
  rw [hod] at hos
  obtain ⟨hchecked, -⟩ := (blockedObservations_eq_ok hbh.enrolled hl).mp hos
  refine ⟨⟨_, (blockedObservations_eq_ok henr h.loaded).mpr ⟨fun x hx => ?_, rfl⟩⟩, ?_⟩
  · rw [h.grows.observationRows_eq] at hx
    exact checkObservationRow_extends h.longer (hchecked x hx)
  · -- The latest block was answered by an authorized retry, whatever the phase is now.
    obtain ⟨-, latest, -, hlatest, -⟩ := checkLatestObservation_eq_ok.mp (hod ▸ hbh.latest o ho)
    have hretry := requireGovernedPhaseWrite_spec hbh (hd.symm ▸ hl) h.governed
      (o := latest) (hd.symm ▸ hlatest)
    refine checkLatestObservation_eq_ok.mpr ⟨l', latest, h.loaded, ?_, .inr ?_⟩
    · rw [Tables.latestObservation, h.grows.observationRows_eq]
      exact hlatest
    · rw [Tables.dispositionOf, h.grows.decisions]
      exact hretry

/-- A phase write leads to an accepted store. -/
theorem PhaseWritten.accepted {phase : EvidencePhase} (h : PhaseWritten d phase l l' t t')
    (hk : t.Keys) (hacc : Accepted t) (hl : loadIntegrityLineage E t d = .ok (some l)) :
    Accepted t' := by
  cases hp : t.profile with
  | legacy =>
    -- A legacy store has no pending row, so no lineage is loaded.
    obtain ⟨r, hlf⟩ := loadIntegrityLineage_some hl
    have hmem := mem_of_findBy hlf.row
    rw [((accepted_legacy hp).mp hacc).pending] at hmem
    simp at hmem
  | modeled p =>
    have hm := (accepted_modeled hk hp).mp hacc
    refine (accepted_modeled (h.keys hk) (h.grows.profile.trans hp)).mpr ⟨?_, h.foreignKeys,
      h.structured hk hm.structured, h.replayed hk hp hm hl,
      h.blocked hm.foreignKeys hm.blocked hl⟩
    rw [qualifiedAcceptanceProfiles_eq h.grows.profile h.grows.acceptanceProfile]
    exact hm.qualified

end Blocked

/-! ## The phase writes -/

section PhaseWrites

variable {cap : ℕ} {t t' : E.Db} {d : Digest} {phase : EvidencePhase} {l l' : IntegrityLineageV1}
  {a : AnchorStatementRecordV1} {c : CheckpointCandidateRecordV1}
  {f : FinalizedIntegrityTransitionV1} {b : E.Bundles} {rejected : String → StoreError}

theorem commit_eq_ok : (commit E t).mapError rejected = .ok t' ↔
    t.ForeignKeys E.vaultForeignKeys ∧ t' = t := by
  rw [mapError_eq_ok, commit, unit_bind_eq_ok, refuseIf_eq_ok, not_not]
  exact and_congr_right fun _ => ⟨fun h => (Except.ok.inj h).symm, fun h => h ▸ rfl⟩

/-- What holds with the submitted bundles holds of what is retained. -/
theorem verifyQualifiedLineage_retained {g : Option IntegrityLineageV1}
    (h : verifyQualifiedLineage E t l g (some b) = .ok ()) :
    verifyQualifiedLineage E t l g none = .ok () := by
  unfold verifyQualifiedLineage at h ⊢
  obtain ⟨q, hq, h⟩ := bind_eq_ok.mp h
  obtain ⟨hmode, h⟩ := unit_bind_eq_ok.mp h
  refine bind_eq_ok.mpr ⟨q, hq, unit_bind_eq_ok.mpr ⟨hmode, ?_⟩⟩
  cases q with
  | none => rfl
  | some x =>
    obtain ⟨r, hr, -⟩ := bind_eq_ok.mp h
    exact bind_eq_ok.mpr ⟨r, hr, rfl⟩

theorem requirePhaseWrite_eq_ok {m : String} (h : requirePhaseWrite E t l d m = .ok ()) :
    requireGovernedPhaseWrite E t l = .ok () ∧ unresolvedIntegrityDigest t = .ok (some d) := by
  unfold requirePhaseWrite at h
  obtain ⟨hg, h⟩ := unit_bind_eq_ok.mp h
  obtain ⟨u, hu, h⟩ := bind_eq_ok.mp h
  rw [refuseIf_eq_ok, not_not] at h
  exact ⟨hg, h ▸ hu⟩

/-- Retained evidence was added, and the unique artifact keys kept. -/
theorem retainIntegrityEvidence_grows {blobs : List ProviderEvidenceBlobV1}
    (h : retainIntegrityEvidence E rejected cap t d phase blobs = .ok t') :
    ∃ as ms, t' = { t with artifacts := t.artifacts ++ as, mappings := t.mappings ++ ms } ∧
      Grows d t t' ∧ EvidenceAdded d phase t t' ∧ (t.Keys → t'.Keys) := by
  obtain ⟨as, ms, rfl, hms, has, hn⟩ := retainIntegrityEvidence_spec h
  refine ⟨as, ms, rfl, ?_, ⟨fun m hm => ?_, fun x hx => ?_⟩, fun hk => { hk with
    artifactId := hn hk.artifactId }⟩
  · exact ⟨rfl, rfl, rfl, rfl, rfl, .refl, .refl, .refl, .refl, .refl,
      ⟨ms, rfl, fun m hm => (hms m hm).1⟩, ⟨as, rfl, fun _ _ => trivial⟩⟩
  · exact (List.mem_append.mp hm).imp_right (hms m)
  · exact (List.mem_append.mp hx).imp_right fun hx =>
      (has x hx).imp fun m hm => ⟨hm.1, hm.2.2⟩

theorem Grows.trans {t'' : E.Db} (h : Grows d t t') (h' : Grows d t' t'') : Grows d t t'' where
  profile := h'.profile.trans h.profile
  acceptanceProfile := h'.acceptanceProfile.trans h.acceptanceProfile
  recoveryProfile := h'.recoveryProfile.trans h.recoveryProfile
  observations := h'.observations.trans h.observations
  decisions := h'.decisions.trans h.decisions
  events := h.events.trans h'.events
  pending := h.pending.trans h'.pending
  anchors := h.anchors.trans h'.anchors
  candidates := h.candidates.trans h'.candidates
  finalizations := h.finalizations.trans h'.finalizations
  mappings := h.mappings.trans h'.mappings
  artifacts := h.artifacts.trans h'.artifacts

theorem Grows.anchor {r : AnchorRow} (hr : r.eventDigest = d) :
    Grows d t { t with anchors := t.anchors ++ [r] } :=
  ⟨rfl, rfl, rfl, rfl, rfl, .refl, .refl, .snoc hr, .refl, .refl, .refl, .refl⟩

theorem Grows.candidate {r : CandidateRow} (hr : r.eventDigest = d) :
    Grows d t { t with candidates := t.candidates ++ [r] } :=
  ⟨rfl, rfl, rfl, rfl, rfl, .refl, .refl, .refl, .snoc hr, .refl, .refl, .refl⟩

theorem Grows.finalization {r : FinalizationRow} (hr : r.eventDigest = d) :
    Grows d t { t with finalizations := t.finalizations ++ [r] } :=
  ⟨rfl, rfl, rfl, rfl, rfl, .refl, .refl, .refl, .refl, .snoc hr, .refl, .refl⟩

/-- The first retention of an anchor statement. -/
theorem writeAnchor_spec (hl : loadIntegrityLineage E t a.eventDigest = .ok (some l))
    (hnone : l.anchorStatement = none) (h : writeAnchor E cap t l a b = .ok t') :
    PhaseWritten a.eventDigest .anchorStatement l ⟨l.pending, some a, none, none⟩ t t' := by
  unfold writeAnchor at h
  obtain ⟨hreq, h⟩ := unit_bind_eq_ok.mp h
  obtain ⟨prev, hprev, h⟩ := bind_eq_ok.mp h
  obtain ⟨hv, h⟩ := unit_bind_eq_ok.mp h
  obtain ⟨x, hx, h⟩ := bind_eq_ok.mp h
  obtain ⟨hq, h⟩ := unit_bind_eq_ok.mp h
  obtain ⟨u, hu, h⟩ := bind_eq_ok.mp h
  obtain ⟨v, hev, h⟩ := bind_eq_ok.mp h
  obtain ⟨retained, hret, h⟩ := bind_eq_ok.mp h
  obtain ⟨hsame, h⟩ := unit_bind_eq_ok.mp h
  obtain ⟨hfk, rfl⟩ := commit_eq_ok.mp h
  obtain ⟨hg, hunres⟩ := requirePhaseWrite_eq_ok hreq
  obtain ⟨rfl, -⟩ := construct_eq_ok (mapError_eq_ok.mp hx)
  rw [mapError_eq_ok] at hv hu
  unfold insertAnchor at hu
  obtain ⟨hfree, hu⟩ := unit_bind_eq_ok.mp hu
  obtain rfl := Except.ok.inj hu
  obtain ⟨as, ms, rfl, hgrows, hadded, hkeys⟩ := retainIntegrityEvidence_grows hev
  -- What was read back is the old lineage with the anchor.
  obtain ⟨r, hlf⟩ := loadIntegrityLineage_some hl
  have hcand : l.checkpointCandidate = none := hlf.anchorFirst hnone
  have hfinal : l.finalization = none := hlf.candidateFirst hcand
  have hloaded : retained = some ⟨l.pending, some a, none, none⟩ := by
    rw [refuseIf_eq_ok, not_not] at hsame
    obtain ⟨y, hy, hya⟩ := Option.bind_eq_some_iff.mp hsame
    obtain ⟨r', hlf'⟩ := loadIntegrityLineage_some (hy ▸ hret)
    have hrr : r' = r := Option.some.inj (hlf'.row.symm.trans hlf.row)
    have hc : y.checkpointCandidate = none := hlf'.checkpointCandidate.trans
      (hlf.checkpointCandidate.symm.trans hcand)
    have hf : y.finalization = none := hlf'.finalization.trans (hlf.finalization.symm.trans hfinal)
    have hp : y.pending = l.pending := by rw [hlf'.pending, hlf.pending, hrr]
    rw [hy, Option.some.injEq]
    obtain ⟨_, _, _, _⟩ := y
    simp_all
  refine ⟨(Grows.anchor (r := ⟨a.eventDigest, _, _, a⟩) rfl).trans hgrows, rfl, rfl, .inl rfl,
    ⟨hadded.mapped, hadded.evidence⟩,
    ⟨_, List.mem_append_right _ (List.mem_singleton_self _), rfl⟩, fun hk => hkeys { hk with
      anchorDigest := ?_ }, hfk, hg, hunres, hloaded ▸ hret, ⟨rfl, ?_, ?_⟩, ?_⟩
  · rw [refuseIf_eq_ok] at hfree
    push Not at hfree
    exact nodup_map_snoc hk.anchorDigest fun y hy => (hfree y hy).1
  · simp [hnone]
  · simp [hcand]
  · intro p e g m hp he hgm ha
    obtain rfl : prev = (g, m) := Except.ok.inj (hprev.symm.trans hgm)
    refine ⟨?_, ha.pending, ?_, by simp, by simp, verifyQualifiedLineage_retained hq⟩
    · exact hcand ▸ ha.binding
    · intro y hy
      obtain rfl : a = y := Option.some.inj hy
      exact hv

/-- The first retention of a checkpoint candidate. -/
theorem writeCandidate_spec (hl : loadIntegrityLineage E t c.eventDigest = .ok (some l))
    (ha : l.anchorStatement = some a) (hnone : l.checkpointCandidate = none)
    (h : writeCandidate E cap t l a c b = .ok t') :
    PhaseWritten c.eventDigest .checkpointCandidate l ⟨l.pending, some a, some c, none⟩ t t' := by
  unfold writeCandidate at h
  obtain ⟨hreq, h⟩ := unit_bind_eq_ok.mp h
  obtain ⟨e, he, h⟩ := bind_eq_ok.mp h
  obtain ⟨hbind, h⟩ := unit_bind_eq_ok.mp h
  obtain ⟨prev, hprev, h⟩ := bind_eq_ok.mp h
  obtain ⟨v, hv, h⟩ := bind_eq_ok.mp h
  obtain ⟨x, hx, h⟩ := bind_eq_ok.mp h
  obtain ⟨hq, h⟩ := unit_bind_eq_ok.mp h
  obtain ⟨u, hu, h⟩ := bind_eq_ok.mp h
  obtain ⟨w, hev, h⟩ := bind_eq_ok.mp h
  obtain ⟨retained, hret, h⟩ := bind_eq_ok.mp h
  obtain ⟨hsame, h⟩ := unit_bind_eq_ok.mp h
  obtain ⟨hfk, rfl⟩ := commit_eq_ok.mp h
  obtain ⟨hg, hunres⟩ := requirePhaseWrite_eq_ok hreq
  obtain ⟨rfl, -⟩ := construct_eq_ok (mapError_eq_ok.mp hx)
  rw [mapError_eq_ok] at hv hu
  unfold insertCandidate at hu
  obtain ⟨hfree, hu⟩ := unit_bind_eq_ok.mp hu
  obtain rfl := Except.ok.inj hu
  obtain ⟨as, ms, rfl, hgrows, hadded, hkeys⟩ := retainIntegrityEvidence_grows hev
  obtain ⟨r, hlf⟩ := loadIntegrityLineage_some hl
  have hfinal : l.finalization = none := hlf.candidateFirst hnone
  have hloaded : retained = some ⟨l.pending, some a, some c, none⟩ := by
    rw [refuseIf_eq_ok, not_not] at hsame
    obtain ⟨y, hy, hyc⟩ := Option.bind_eq_some_iff.mp hsame
    obtain ⟨r', hlf'⟩ := loadIntegrityLineage_some (hy ▸ hret)
    have hrr : r' = r := Option.some.inj (hlf'.row.symm.trans hlf.row)
    have hya : y.anchorStatement = some a := hlf'.anchorStatement.trans
      (hlf.anchorStatement.symm.trans ha)
    have hf : y.finalization = none := hlf'.finalization.trans (hlf.finalization.symm.trans hfinal)
    have hp : y.pending = l.pending := by rw [hlf'.pending, hlf.pending, hrr]
    rw [hy, Option.some.injEq]
    obtain ⟨_, _, _, _⟩ := y
    simp_all
  refine ⟨(Grows.candidate (r := ⟨c.eventDigest, _, _, _, c⟩) rfl).trans hgrows, rfl, rfl, .inl rfl,
    ⟨hadded.mapped, hadded.evidence⟩,
    ⟨_, List.mem_append_right _ (List.mem_singleton_self _), rfl⟩, fun hk => hkeys { hk with
      candidateDigest := ?_ }, hfk, hg, hunres, hloaded ▸ hret, ⟨rfl, ?_, ?_⟩, ?_⟩
  · rw [refuseIf_eq_ok] at hfree
    push Not at hfree
    exact nodup_map_snoc hk.candidateDigest fun y hy => (hfree y hy).1
  · exact fun y hy => ha.symm.trans hy
  · simp [hnone]
  · intro p e' g m hp he' hgm hauth
    obtain rfl : prev = (g, m) := Except.ok.inj (hprev.symm.trans hgm)
    obtain rfl : e = e' := Except.ok.inj (he.symm.trans he')
    rw [ha] at hq
    refine ⟨?_, hauth.pending, ?_, ?_, by simp, verifyQualifiedLineage_retained hq⟩
    · rw [refuseIf_eq_ok, not_not] at hbind
      simpa [hp, StoreProfile.authorityBinding] using hbind
    · exact fun y hy => hauth.anchor y (ha.trans hy)
    · intro y hy
      obtain rfl : c = y := Option.some.inj hy
      exact ⟨a, v, rfl, hv⟩

/-- The first finalization of a transition. -/
theorem writeFinalization_spec (hl : loadIntegrityLineage E t f.eventDigest = .ok (some l))
    (hcand : l.checkpointCandidate = some c)
    (h : writeFinalization E cap t l f b = .ok t') :
    PhaseWritten f.eventDigest .finalization l
      ⟨l.pending, l.anchorStatement, some c, some f⟩ t t' := by
  unfold writeFinalization at h
  obtain ⟨hreq, h⟩ := unit_bind_eq_ok.mp h
  obtain ⟨e, he, h⟩ := bind_eq_ok.mp h
  obtain ⟨prev, hprev, h⟩ := bind_eq_ok.mp h
  obtain ⟨v, -, h⟩ := bind_eq_ok.mp h
  obtain ⟨x, hx, h⟩ := bind_eq_ok.mp h
  obtain ⟨hq, h⟩ := unit_bind_eq_ok.mp h
  obtain ⟨u, hu, h⟩ := bind_eq_ok.mp h
  obtain ⟨w, hev, h⟩ := bind_eq_ok.mp h
  obtain ⟨o, ho, h⟩ := bind_eq_ok.mp h
  obtain ⟨y, hy, h⟩ := orRefuse_bind_eq_ok.mp h
  obtain ⟨hsame, h⟩ := unit_bind_eq_ok.mp h
  obtain ⟨z, hz, h⟩ := bind_eq_ok.mp h
  obtain ⟨hfk, rfl⟩ := commit_eq_ok.mp h
  obtain ⟨hg, hunres⟩ := requirePhaseWrite_eq_ok hreq
  obtain ⟨rfl, -⟩ := construct_eq_ok (mapError_eq_ok.mp hx)
  rw [mapError_eq_ok] at hz hu
  unfold insertFinalization at hu
  obtain ⟨hfree, hu⟩ := unit_bind_eq_ok.mp hu
  obtain rfl := Except.ok.inj hu
  obtain ⟨as, ms, rfl, hgrows, hadded, hkeys⟩ := retainIntegrityEvidence_grows hev
  obtain ⟨r, hlf⟩ := loadIntegrityLineage_some hl
  have hloaded : y = ⟨l.pending, l.anchorStatement, some c, some f⟩ := by
    rw [refuseIf_eq_ok, not_not] at hsame
    obtain ⟨r', hlf'⟩ := loadIntegrityLineage_some (hy ▸ ho)
    have hrr : r' = r := Option.some.inj (hlf'.row.symm.trans hlf.row)
    have hya : y.anchorStatement = l.anchorStatement := hlf'.anchorStatement.trans
      hlf.anchorStatement.symm
    have hyc : y.checkpointCandidate = some c := hlf'.checkpointCandidate.trans
      (hlf.checkpointCandidate.symm.trans hcand)
    have hp : y.pending = l.pending := by rw [hlf'.pending, hlf.pending, hrr]
    obtain ⟨_, _, _, _⟩ := y
    simp_all
  refine ⟨(Grows.finalization (r := ⟨f.eventDigest, _, f⟩) rfl).trans hgrows, rfl, rfl,
    .inr ⟨_, rfl, rfl⟩, ⟨hadded.mapped, hadded.evidence⟩,
    ⟨_, List.mem_append_right _ (List.mem_singleton_self _), rfl⟩, fun hk => hkeys { hk with
      finalizationDigest := ?_ }, hfk, hg, hunres, hloaded ▸ hy ▸ ho, ⟨rfl, ?_, ?_⟩, ?_⟩
  · rw [refuseIf_eq_ok] at hfree
    push Not at hfree
    exact nodup_map_snoc hk.finalizationDigest fun y hy => (hfree y hy).1
  · exact fun _ => id
  · exact fun y hy => hcand.symm.trans hy
  · intro p e' g m hp he' hgm hauth
    obtain rfl : prev = (g, m) := Except.ok.inj (hprev.symm.trans hgm)
    obtain rfl : e = e' := Except.ok.inj (he.symm.trans he')
    rw [hcand] at hq
    refine ⟨hcand ▸ hauth.binding, hauth.pending, hauth.anchor, ?_, ?_,
      verifyQualifiedLineage_retained hq⟩
    · exact fun y hy => hauth.candidate y (hcand.trans hy)
    · exact fun _ => ⟨z, hloaded ▸ hz⟩

end PhaseWrites

end Etzio
