import Etzio.StoreRecovery

/-!
# Every committed write keeps the store acceptable

`Written` says once what a transaction that commits rows can have done, with what it
checked (`Txn.body_written`). Whatever that was, the full replay accepts the result on
accepted tables (`Written.accepted`, `Txn.body_accepted`).
-/

open CheckedRun Rows

namespace Etzio

variable {E : Env}

/-! ## Enrollments and checkpoints -/

section Enrollments

variable {cap : ℕ} {t t' : E.Db}

/-- Changes outside the replay's tables, profiles and block history change nothing for
it but the foreign keys. -/
theorem ModeledAccepted.of_blocked {p : ModeledProfile} (h : ModeledAccepted t p)
    {os : List ObservationRow} {ds : List DecisionRow} {r : Option RecoveryProfileRow}
    (hfk : ({ t with observations := os, decisions := ds, recoveryProfile := r } :
      E.Db).ForeignKeys E.vaultForeignKeys)
    (hb : validateBlockedFinalityState E
      { t with observations := os, decisions := ds, recoveryProfile := r } = .ok ()) :
    ModeledAccepted { t with observations := os, decisions := ds, recoveryProfile := r } p :=
  ⟨h.qualified, hfk, { h.structured with }, h.replayed, hb⟩

/-- What a committed recovery enrollment wrote. -/
structure RecoveryEnrolled (x : BlockedFinalityRecoveryProfileV1) (t t' : E.Db) : Prop where
  eq : t' = { t with recoveryProfile := some ⟨E.recovery.profileId x, x⟩ }
  first : t.recoveryProfile = none
  matched : recoveryProfileMatchesStore E t x
  foreignKeys : t'.ForeignKeys E.vaultForeignKeys

theorem enrollBlockedFinalityRecovery_wrote {x : BlockedFinalityRecoveryProfileV1}
    {published : Bool} {i : Digest}
    (h : enrollBlockedFinalityRecovery E cap t x = .ok (.wrote t' published, i)) :
    RecoveryEnrolled x t t' := by
  unfold enrollBlockedFinalityRecovery at h
  obtain ⟨hmatch, hrow⟩ := unit_bind_eq_ok.mp h
  rw [refuseIf_eq_ok, not_not] at hmatch
  cases hr : t.recoveryProfile with
  | some r =>
    rw [hr] at hrow
    obtain ⟨-, hrow⟩ := unit_bind_eq_ok.mp hrow
    simp [pure, Except.pure] at hrow
  | none =>
    rw [hr] at hrow
    obtain ⟨-, hrow⟩ := unit_bind_eq_ok.mp hrow
    obtain ⟨u, hu, hlast⟩ := bind_eq_ok.mp hrow
    obtain ⟨w, hw, hend⟩ := bind_eq_ok.mp hlast
    obtain ⟨hfk, heq⟩ := commit_eq_ok.mp hw
    obtain ⟨⟨rfl, -⟩, -⟩ : (w = t' ∧ false = published) ∧ _ = i := by
      simpa [pure, Except.pure] using hend
    rw [mapError_eq_ok] at hu
    unfold insertRecoveryProfile at hu
    obtain ⟨-, hu⟩ := unit_bind_eq_ok.mp hu
    exact ⟨heq.trans (Except.ok.inj hu).symm, hr, hmatch, heq ▸ hfk⟩

theorem RecoveryEnrolled.accepted {x : BlockedFinalityRecoveryProfileV1}
    (h : RecoveryEnrolled x t t') (hk : t.Keys) (hacc : Accepted t) : t'.Keys ∧ Accepted t' := by
  obtain ⟨heq, hr, hmatch, hfk⟩ := h
  have hk' : t'.Keys := by rw [heq]; exact { hk with }
  refine ⟨hk', ?_⟩
  cases hp : t.profile with
  | legacy =>
    unfold recoveryProfileMatchesStore at hmatch
    rw [hp] at hmatch
    exact hmatch.elim
  | modeled p =>
    have hm := (accepted_modeled hk hp).mp hacc
    refine (accepted_modeled hk' (by rw [heq]; exact hp)).mpr ?_
    -- Without a profile nothing was blocked.
    obtain ⟨-, ho, hd⟩ | ⟨hne, -⟩ := validateBlockedFinalityState_eq_ok.mp hm.blocked
    · rw [heq] at hfk ⊢
      refine hm.of_blocked hfk (validateBlockedFinalityState_eq_ok.mpr
        (.inr ⟨by simp, x, ?_, by simp [ho], by simp [hd], by simp [ho]⟩))
      refine orRefuse_bind_eq_ok.mpr ⟨_, rfl, unit_bind_eq_ok.mpr ⟨?_, rfl⟩⟩
      rw [refuseIf_eq_ok, not_or, not_not, not_not]
      exact ⟨rfl, hmatch⟩
    · exact absurd hr hne

theorem ObservationWritten.accepted {o : BlockedFinalityObservationV1}
    (hw : ObservationWritten o t t') (hk : t.Keys) (hacc : Accepted t) :
    t'.Keys ∧ Accepted t' := by
  obtain ⟨profile, l, henr, -⟩ := hw.enrolled
  obtain ⟨-, p, hp⟩ := requireEnrolledRecoveryProfile_spec henr
  have hm := (accepted_modeled hk hp).mp hacc
  have hfk := hw.foreignKeys
  have hb := hw.blocked hm.blocked
  refine ⟨hw.keys hk, (accepted_modeled (hw.keys hk) (by rw [hw.eq]; exact hp)).mpr ?_⟩
  rw [hw.eq] at hfk hb ⊢
  exact hm.of_blocked hfk hb

theorem DecisionWritten.accepted {signed : SignedGovernedRecoveryDecisionV1}
    (hw : DecisionWritten signed t t') (hk : t.Keys) (hacc : Accepted t) :
    t'.Keys ∧ Accepted t' := by
  obtain ⟨profile, l, os, henr, -⟩ := hw.enrolled
  obtain ⟨-, p, hp⟩ := requireEnrolledRecoveryProfile_spec henr
  have hm := (accepted_modeled hk hp).mp hacc
  have hfk := hw.foreignKeys
  have hb := hw.blocked hk hm.structured hm.blocked
  refine ⟨hw.keys hk, (accepted_modeled (hw.keys hk) (by rw [hw.eq]; exact hp)).mpr ?_⟩
  rw [hw.eq] at hfk hb ⊢
  exact hm.of_blocked hfk hb

/-- A modeled store without events has nothing to replay. -/
theorem modeledAccepted_of_empty {p : ModeledProfile}
    (hq : ∃ q, qualifiedAcceptanceProfiles E t = .ok q)
    (hfk : t.ForeignKeys E.vaultForeignKeys) (he : t.events = []) (hp : t.pending = [])
    (ha : t.anchors = []) (hc : t.candidates = []) (hf : t.finalizations = [])
    (har : t.artifacts = []) (hmp : t.mappings = [])
    (hb : validateBlockedFinalityState E t = .ok ()) : ModeledAccepted t p := by
  refine ⟨hq, hfk, ?_, ⟨⟨none, ∅⟩, ?_⟩, hb⟩
  · constructor <;> simp [he, hp, ha, hc, hf, har, hmp]
  · rw [Tables.instanceOrder, hp]
    rfl

/-- What a committed modeled enrollment wrote. -/
structure ModeledEnrolled (p : ModeledProfile) (t t' : E.Db) : Prop where
  eq : t' = { t with profile := .modeled p }
  legacy : t.profile = .legacy
  empty : t.events = []
  foreignKeys : t'.ForeignKeys E.vaultForeignKeys

theorem enrollModeledIntegrity_wrote {p : ModeledProfile} {published : Bool} {u : Unit}
    (h : enrollModeledIntegrity E cap t p = .ok (.wrote t' published, u)) :
    ModeledEnrolled p t t' := by
  unfold enrollModeledIntegrity at h
  split_ifs at h with hsame
  · obtain ⟨-, h⟩ := unit_bind_eq_ok.mp h
    simp [pure, Except.pure] at h
  · obtain ⟨hleg, h⟩ := unit_bind_eq_ok.mp h
    obtain ⟨-, h⟩ := unit_bind_eq_ok.mp h
    obtain ⟨-, h⟩ := unit_bind_eq_ok.mp h
    obtain ⟨v, hv, hrest⟩ := bind_eq_ok.mp h
    obtain ⟨-, hlast⟩ := unit_bind_eq_ok.mp hrest
    obtain ⟨w, hw, hend⟩ := bind_eq_ok.mp hlast
    obtain ⟨hfk, heq⟩ := commit_eq_ok.mp hw
    obtain ⟨rfl, -⟩ : w = t' ∧ true = published := by simpa [pure, Except.pure] using hend
    rw [mapError_eq_ok] at hv
    unfold updateStoreProfile at hv
    obtain ⟨hempty, hv⟩ := unit_bind_eq_ok.mp hv
    rw [refuseIf_eq_ok, not_not] at hleg hempty
    exact ⟨heq.trans (Except.ok.inj hv).symm, hleg, hempty.2.1, heq ▸ hfk⟩

theorem ModeledEnrolled.accepted {p : ModeledProfile} (h : ModeledEnrolled p t t') (hk : t.Keys)
    (hacc : Accepted t) : t'.Keys ∧ Accepted t' := by
  obtain ⟨heq, hleg, hempty, hfk⟩ := h
  have hk' : t'.Keys := by rw [heq]; exact { hk with }
  have hl := (accepted_legacy hleg).mp hacc
  refine ⟨hk', (accepted_modeled hk' (by rw [heq])).mpr ?_⟩
  rw [heq] at hfk ⊢
  refine modeledAccepted_of_empty ?_ hfk hempty hl.pending hl.anchors hl.candidates
    hl.finalizations hl.artifacts hl.mappings ?_
  · refine ⟨none, unit_bind_eq_ok.mpr ⟨by simp [hl.acceptanceProfile], ?_⟩⟩
    simp [hl.acceptanceProfile, pure, Except.pure]
  · exact validateBlockedFinalityState_eq_ok.mpr
      (.inl ⟨hl.recoveryProfile, hl.observations, hl.decisions⟩)

/-- What a committed qualified enrollment wrote. -/
structure QualifiedEnrolled (q : E.Qualified) (t t' : E.Db) : Prop where
  eq : t' = { t with acceptanceProfile := some q }
  aligned : qualifiedAligned E t q
  empty : t.events = []
  foreignKeys : t'.ForeignKeys E.vaultForeignKeys

theorem enrollQualifiedAcceptance_wrote {q : E.Qualified} {published : Bool} {m : AcceptanceMode}
    (h : enrollQualifiedAcceptance E cap t q = .ok (.wrote t' published, m)) :
    QualifiedEnrolled q t t' := by
  unfold enrollQualifiedAcceptance at h
  cases hr : t.acceptanceProfile with
  | some r =>
    rw [hr] at h
    obtain ⟨-, h⟩ := unit_bind_eq_ok.mp h
    simp [pure, Except.pure] at h
  | none =>
    rw [hr] at h
    obtain ⟨hal, h⟩ := unit_bind_eq_ok.mp h
    obtain ⟨-, h⟩ := unit_bind_eq_ok.mp h
    obtain ⟨v, hv, hlast⟩ := bind_eq_ok.mp h
    obtain ⟨w, hw, hend⟩ := bind_eq_ok.mp hlast
    obtain ⟨hfk, heq⟩ := commit_eq_ok.mp hw
    obtain ⟨⟨rfl, -⟩, -⟩ : (w = t' ∧ false = published) ∧ _ = m := by
      simpa [pure, Except.pure] using hend
    rw [mapError_eq_ok] at hv
    unfold insertAcceptanceProfile at hv
    obtain ⟨-, hv⟩ := unit_bind_eq_ok.mp hv
    obtain ⟨hempty, hv⟩ := unit_bind_eq_ok.mp hv
    obtain ⟨-, hv⟩ := unit_bind_eq_ok.mp hv
    rw [refuseIf_eq_ok, not_not] at hal hempty
    exact ⟨heq.trans (Except.ok.inj hv).symm, hal, hempty, heq ▸ hfk⟩

/-- Without an event an accepted modeled store holds no integrity row at all. -/
theorem ModeledAccepted.empty {p : ModeledProfile} (hm : ModeledAccepted t p)
    (hempty : t.events = []) :
    t.pending = [] ∧ t.anchors = [] ∧ t.candidates = [] ∧ t.finalizations = [] ∧
      t.artifacts = [] ∧ t.mappings = [] := by
  have hs := hm.structured
  have hpend : t.pending = [] := by
    rw [← List.length_eq_zero_iff, ← hs.count, hempty, List.length_nil]
  have hanc : t.anchors = [] := by
    have := hs.anchorsLe
    rw [hpend] at this
    exact List.length_eq_zero_iff.mp (Nat.le_zero.mp this)
  have hcan : t.candidates = [] := by
    have := hs.candidatesLe
    rw [hanc] at this
    exact List.length_eq_zero_iff.mp (Nat.le_zero.mp this)
  have hfin : t.finalizations = [] := by
    have := hs.finalizedCandidates
    rw [hcan] at this
    exact List.length_eq_zero_iff.mp (Nat.le_zero.mp this)
  have hmap : t.mappings = [] := by
    rw [List.eq_nil_iff_forall_not_mem]
    intro y hy
    obtain ⟨z, hz, -⟩ := hm.foreignKeys.mapping y hy
    simp [hpend] at hz
  have hart : t.artifacts = [] := by
    rw [List.eq_nil_iff_forall_not_mem]
    intro y hy
    obtain ⟨z, hz, -⟩ := hs.evidence y hy
    simp [hmap] at hz
  exact ⟨hpend, hanc, hcan, hfin, hart, hmap⟩

theorem QualifiedEnrolled.accepted {q : E.Qualified} (h : QualifiedEnrolled q t t') (hk : t.Keys)
    (hacc : Accepted t) : t'.Keys ∧ Accepted t' := by
  obtain ⟨heq, hal, hempty, hfk⟩ := h
  have hk' : t'.Keys := by rw [heq]; exact { hk with }
  refine ⟨hk', ?_⟩
  cases hp : t.profile with
  | legacy =>
    unfold qualifiedAligned at hal
    rw [hp] at hal
    exact hal.elim
  | modeled p =>
    have hm := (accepted_modeled hk hp).mp hacc
    obtain ⟨hpend, hanc, hcan, hfin, hart, hmap⟩ := hm.empty hempty
    refine (accepted_modeled hk' (by rw [heq]; exact hp)).mpr ?_
    rw [heq] at hfk ⊢
    refine modeledAccepted_of_empty ?_ hfk hempty hpend hanc hcan hfin hart hmap hm.blocked
    refine ⟨some q, unit_bind_eq_ok.mpr ⟨?_, rfl⟩⟩
    rw [refuseIf_eq_ok]
    push Not
    intro y hy
    obtain rfl : q = y := Option.some.inj hy
    exact hal

/-- What a committed checkpoint wrote. -/
structure CheckpointStored (c : SignedCheckpoint) (t t' : E.Db) : Prop where
  eq : t' = { t with signedCheckpoints := t.signedCheckpoints ++ [c] }
  legacy : t.profile = .legacy
  foreignKeys : t'.ForeignKeys E.vaultForeignKeys

theorem storeCheckpoint_wrote {c c' : SignedCheckpoint} {published : Bool}
    (h : storeCheckpoint E t c = .ok (.wrote t' published, c')) : CheckpointStored c t t' := by
  unfold storeCheckpoint at h
  obtain ⟨hleg, h⟩ := unit_bind_eq_ok.mp h
  obtain ⟨y, -, h⟩ := bind_eq_ok.mp h
  obtain ⟨-, h⟩ := unit_bind_eq_ok.mp h
  obtain ⟨v, hv, hlast⟩ := bind_eq_ok.mp h
  obtain ⟨w, hw, hend⟩ := bind_eq_ok.mp hlast
  obtain ⟨hfk, heq⟩ := commit_eq_ok.mp hw
  obtain ⟨⟨rfl, -⟩, -⟩ : (w = t' ∧ true = published) ∧ c = c' := by
    simpa [pure, Except.pure] using hend
  rw [mapError_eq_ok] at hv
  unfold insertSignedCheckpoint at hv
  obtain ⟨-, hv⟩ := unit_bind_eq_ok.mp hv
  rw [refuseIf_eq_ok, not_not] at hleg
  exact ⟨heq.trans (Except.ok.inj hv).symm, hleg, heq ▸ hfk⟩

theorem CheckpointStored.accepted {c : SignedCheckpoint} (h : CheckpointStored c t t')
    (hk : t.Keys) (hacc : Accepted t) : t'.Keys ∧ Accepted t' := by
  obtain ⟨heq, hleg, hfk⟩ := h
  have hl := (accepted_legacy hleg).mp hacc
  have hleg' : t'.profile = .legacy := by rw [heq]; exact hleg
  refine ⟨by rw [heq]; exact { hk with }, (accepted_legacy hleg').mpr ?_⟩
  rw [heq] at hfk ⊢
  exact { hl with foreignKeys := hfk }

end Enrollments

/-! ## Every write -/

section Writes

variable {cap : ℕ} {t t' : E.Db}

/-- A resubmission writes nothing. -/
theorem resubmitPhase_unchanged {ρ : Type} {l : IntegrityLineageV1} {d : Digest} {same : Bool}
    {m : String} {b : E.Bundles} {x : ρ} {c : Commit E × ρ}
    (h : resubmitPhase E t l d same m b x = .ok c) : same = true ∧ c = (.unchanged, x) := by
  unfold resubmitPhase at h
  obtain ⟨hsame, h⟩ := unit_bind_eq_ok.mp h
  obtain ⟨prev, -, h⟩ := bind_eq_ok.mp h
  obtain ⟨-, h⟩ := unit_bind_eq_ok.mp h
  exact ⟨by simpa using hsame, (Except.ok.inj h).symm⟩

section Loaded

variable {d : Digest} {l : IntegrityLineageV1} {r : PendingRow}

/-- A loaded anchor statement has its row, and without one there is no row. -/
theorem LoadedFrom.anchor_cases (h : LoadedFrom t d l r) :
    (∃ a, l.anchorStatement = some a ∧ ∃ x ∈ t.anchors, x.eventDigest = d ∧ x.record = a) ∨
      l.anchorStatement = none ∧ ∀ x ∈ t.anchors, x.eventDigest ≠ d := by
  rw [h.anchorStatement, anchorRow, Option.map_map]
  cases hx : findBy AnchorRow.eventDigest d t.anchors with
  | none => exact .inr ⟨rfl, findBy_eq_none.mp hx⟩
  | some x => exact .inl ⟨x.record, rfl, x, mem_of_findBy hx, key_of_findBy hx, rfl⟩

theorem LoadedFrom.candidate_cases (h : LoadedFrom t d l r) :
    (∃ c, l.checkpointCandidate = some c ∧
      ∃ x ∈ t.candidates, x.eventDigest = d ∧ x.record = c) ∨
      l.checkpointCandidate = none ∧ ∀ x ∈ t.candidates, x.eventDigest ≠ d := by
  rw [h.checkpointCandidate, candidateRow, Option.map_map]
  cases hx : findBy CandidateRow.eventDigest d t.candidates with
  | none => exact .inr ⟨rfl, findBy_eq_none.mp hx⟩
  | some x => exact .inl ⟨x.record, rfl, x, mem_of_findBy hx, key_of_findBy hx, rfl⟩

theorem LoadedFrom.finalization_cases (h : LoadedFrom t d l r) :
    (∃ f, l.finalization = some f ∧
      ∃ x ∈ t.finalizations, x.eventDigest = d ∧ x.record = f) ∨
      l.finalization = none ∧ ∀ x ∈ t.finalizations, x.eventDigest ≠ d := by
  rw [h.finalization, finalizationRow, Option.map_map]
  cases hx : findBy FinalizationRow.eventDigest d t.finalizations with
  | none => exact .inr ⟨rfl, findBy_eq_none.mp hx⟩
  | some x => exact .inl ⟨x.record, rfl, x, mem_of_findBy hx, key_of_findBy hx, rfl⟩

end Loaded

theorem retainIntegrityAnchorStatement_spec {a : AnchorStatementRecordV1} {b : E.Bundles}
    {c : Commit E × AnchorStatementRecordV1}
    (h : retainIntegrityAnchorStatement E cap t a b = .ok c) :
    Outcome a (∃ r ∈ t.anchors, r.eventDigest = a.eventDigest ∧ r.record = a)
      (fun t' => (∀ r ∈ t.anchors, r.eventDigest ≠ a.eventDigest) ∧ ∃ l,
        loadIntegrityLineage E t a.eventDigest = .ok (some l) ∧
        PhaseWritten a.eventDigest .anchorStatement l ⟨l.pending, some a, none, none⟩ t t') c := by
  unfold retainIntegrityAnchorStatement at h
  obtain ⟨x, hx, h⟩ := bind_eq_ok.mp h
  obtain ⟨l, hl, h⟩ := orRefuse_bind_eq_ok.mp h
  have hload := hl ▸ hx
  obtain ⟨row, hlf⟩ := loadIntegrityLineage_some hload
  rcases hlf.anchor_cases with ⟨y, han, hret⟩ | ⟨han, hfresh⟩
  · rw [han] at h
    obtain ⟨hsame, rfl⟩ := resubmitPhase_unchanged h
    obtain rfl : y = a := by simpa using hsame
    exact .unchanged hret
  · rw [han] at h
    obtain ⟨w, hw, h⟩ := bind_eq_ok.mp h
    rw [← Except.ok.inj h]
    exact .wrote ⟨hfresh, l, hload, writeAnchor_spec hload han hw⟩

theorem retainIntegrityCheckpointCandidate_spec {x : CheckpointCandidateRecordV1}
    {b : E.Bundles} {c : Commit E × CheckpointCandidateRecordV1}
    (h : retainIntegrityCheckpointCandidate E cap t x b = .ok c) :
    Outcome x (∃ r ∈ t.candidates, r.eventDigest = x.eventDigest ∧ r.record = x)
      (fun t' => (∀ r ∈ t.candidates, r.eventDigest ≠ x.eventDigest) ∧ ∃ l a,
        loadIntegrityLineage E t x.eventDigest = .ok (some l) ∧ l.anchorStatement = some a ∧
        PhaseWritten x.eventDigest .checkpointCandidate l ⟨l.pending, some a, some x, none⟩ t t')
      c := by
  unfold retainIntegrityCheckpointCandidate at h
  obtain ⟨-, h⟩ := unit_bind_eq_ok.mp h
  obtain ⟨o, ho, h⟩ := bind_eq_ok.mp h
  obtain ⟨l, hl, h⟩ := orRefuse_bind_eq_ok.mp h
  obtain ⟨a, ha, h⟩ := orRefuse_bind_eq_ok.mp h
  have hload := hl ▸ ho
  obtain ⟨row, hlf⟩ := loadIntegrityLineage_some hload
  rcases hlf.candidate_cases with ⟨y, hc, hret⟩ | ⟨hc, hfresh⟩
  · rw [hc] at h
    obtain ⟨hsame, rfl⟩ := resubmitPhase_unchanged h
    obtain rfl : y = x := by simpa using hsame
    exact .unchanged hret
  · rw [hc] at h
    obtain ⟨w, hw, h⟩ := bind_eq_ok.mp h
    rw [← Except.ok.inj h]
    exact .wrote ⟨hfresh, l, a, hload, ha, writeCandidate_spec hload ha hc hw⟩

theorem finalizeIntegrityTransition_spec {f : FinalizedIntegrityTransitionV1} {b : E.Bundles}
    {c : Commit E × FinalizedIntegrityTransitionV1}
    (h : finalizeIntegrityTransition E cap t f b = .ok c) :
    Outcome f (∃ r ∈ t.finalizations, r.eventDigest = f.eventDigest ∧ r.record = f)
      (fun t' => (∀ r ∈ t.finalizations, r.eventDigest ≠ f.eventDigest) ∧ ∃ l c,
        loadIntegrityLineage E t f.eventDigest = .ok (some l) ∧ l.checkpointCandidate = some c ∧
        PhaseWritten f.eventDigest .finalization l ⟨l.pending, l.anchorStatement, some c, some f⟩
          t t') c := by
  unfold finalizeIntegrityTransition at h
  obtain ⟨-, h⟩ := unit_bind_eq_ok.mp h
  obtain ⟨u, -, h⟩ := bind_eq_ok.mp h
  obtain ⟨o, ho, h⟩ := bind_eq_ok.mp h
  obtain ⟨l, hl, h⟩ := orRefuse_bind_eq_ok.mp h
  obtain ⟨hcand, h⟩ := unit_bind_eq_ok.mp h
  rw [refuseIf_eq_ok] at hcand
  obtain ⟨x, hx⟩ := Option.ne_none_iff_exists'.mp hcand
  have hload := hl ▸ ho
  obtain ⟨row, hlf⟩ := loadIntegrityLineage_some hload
  rcases hlf.finalization_cases with ⟨y, hf, hret⟩ | ⟨hf, hfresh⟩
  · rw [hf] at h
    obtain ⟨hsame, rfl⟩ := resubmitPhase_unchanged h
    obtain rfl : y = f := by simpa using hsame
    exact .unchanged hret
  · rw [hf] at h
    obtain ⟨w, hw, h⟩ := bind_eq_ok.mp h
    rw [← Except.ok.inj h]
    exact .wrote ⟨hfresh, l, x, hload, hx, writeFinalization_spec hload hx hw⟩

theorem readOnly_unchanged {ρ : Type} {x : Except StoreError ρ} {c : Commit E × ρ}
    (h : readOnly E x = .ok c) : x = .ok c.2 ∧ c.1 = .unchanged := by
  unfold readOnly at h
  obtain ⟨r, hr, h⟩ := bind_eq_ok.mp h
  rw [← Except.ok.inj h]
  exact ⟨hr, rfl⟩

/-- What a transaction that commits rows did. -/
inductive Written (t t' : E.Db) : Prop
  | appended (r : AppendRequest E) (v : E.Vault) (hchecks : admitAppend E t r = .ok ())
      (hp : t.profile = .legacy)
      (h : EventInserted (.ofEvent r.event) { t with vault := v } t')
      (hret : eventForIntegrityDigest E t' r.event.eventDigest = .ok r.event)
      (hfk : t'.ForeignKeys E.vaultForeignKeys)
  | appendedPending (r : AppendRequest E) (x : PendingIntegrityTransitionV1) (p : ModeledProfile)
      (hchecks : admitAppend E t r = .ok ()) (hp : t.profile = .modeled p)
      (h : AppendWritten r.event x t t')
  | phase (d : Digest) (phase : EvidencePhase) (l l' : IntegrityLineageV1)
      (hl : loadIntegrityLineage E t d = .ok (some l)) (h : PhaseWritten d phase l l' t t')
  | observed (o : BlockedFinalityObservationV1) (h : ObservationWritten o t t')
  | decided (d : SignedGovernedRecoveryDecisionV1) (h : DecisionWritten d t t')
  | recoveryEnrolled (x : BlockedFinalityRecoveryProfileV1) (h : RecoveryEnrolled x t t')
  | modeledEnrolled (p : ModeledProfile) (h : ModeledEnrolled p t t')
  | qualifiedEnrolled (q : E.Qualified) (h : QualifiedEnrolled q t t')
  | checkpointed (c : SignedCheckpoint) (h : CheckpointStored c t t')

theorem appendVerifiedEvent_wrote {r : AppendRequest E} {published : Bool} {e : EventV1}
    (h : appendVerifiedEvent E cap t r = .ok (.wrote t' published, e)) : Written t t' := by
  obtain ⟨u, hu, hchecks, hrows, hcheck, hfk⟩ := appendVerifiedEvent_spec h
  obtain ⟨⟨rfl, rfl⟩, rfl⟩ : (t' = u ∧ published = true) ∧ e = r.event := by simpa using hu
  have hdossier := admitAppend_dossier hchecks
  cases hp : t.profile with
  | legacy =>
    obtain ⟨v, hins⟩ := appendRows_legacy (hdossier.mp hp) hrows
    exact .appended r v hchecks hp hins (checkAppended_spec hcheck).1 hfk
  | modeled p =>
    have hne : r.dossier ≠ none := fun hd => by simp [hdossier.mpr hd] at hp
    obtain ⟨⟨x, b⟩, hx⟩ := Option.ne_none_iff_exists'.mp hne
    exact .appendedPending r x p hchecks hp (appendRows_modeled hx hrows hcheck hfk)

/-- A committed transaction wrote one of these. -/
theorem Txn.body_written {ρ : Type} {x : Txn E ρ} {published : Bool} {y : ρ}
    (h : x.body E cap t = .ok (.wrote t' published, y)) : Written t t' := by
  cases x with
  | appendVerifiedEvent r => exact appendVerifiedEvent_wrote h
  | retainIntegrityAnchorStatement a b =>
    cases retainIntegrityAnchorStatement_spec h with
    | wrote hphase =>
      obtain ⟨-, l, hl, hw⟩ := hphase
      exact .phase _ _ l _ hl hw
  | retainIntegrityCheckpointCandidate c b =>
    cases retainIntegrityCheckpointCandidate_spec h with
    | wrote hphase =>
      obtain ⟨-, l, a, hl, -, hw⟩ := hphase
      exact .phase _ _ l _ hl hw
  | finalizeIntegrityTransition f b =>
    cases finalizeIntegrityTransition_spec h with
    | wrote hphase =>
      obtain ⟨-, l, c, hl, -, hw⟩ := hphase
      exact .phase _ _ l _ hl hw
  | enrollBlockedFinalityRecovery p =>
    exact .recoveryEnrolled p (enrollBlockedFinalityRecovery_wrote h)
  | retainBlockedFinalityObservation o =>
    cases retainBlockedFinalityObservation_spec h with
    | wrote hw => exact .observed o hw
  | retainGovernedRecoveryDecision d =>
    cases retainGovernedRecoveryDecision_spec h with
    | wrote hw => exact .decided d hw
  | enrollModeledIntegrity p => exact .modeledEnrolled p (enrollModeledIntegrity_wrote h)
  | enrollQualifiedAcceptance q => exact .qualifiedEnrolled q (enrollQualifiedAcceptance_wrote h)
  | storeCheckpoint c => exact .checkpointed c (storeCheckpoint_wrote h)
  | load m => simpa using (readOnly_unchanged h).2
  | loadIntegrityEvent d => simpa using (readOnly_unchanged h).2
  | loadIntegrityLineage d => simpa using (readOnly_unchanged h).2
  | loadIntegrityPredecessorLineages d => simpa using (readOnly_unchanged h).2
  | loadLatestFinalizedIntegrityLineages m => simpa using (readOnly_unchanged h).2
  | loadUnresolvedIntegrityTransition => simpa using (readOnly_unchanged h).2
  | loadBlockedFinalityObservations d => simpa using (readOnly_unchanged h).2
  | loadGovernedRecoveryDecision i => simpa using (readOnly_unchanged h).2
  | instanceIsSealed => simpa using (readOnly_unchanged h).2
  | resolveAcceptanceMode => simpa using (readOnly_unchanged h).2

/-- Every write leads from accepted tables to accepted ones. -/
theorem Written.accepted (h : Written t t') (hk : t.Keys) (hacc : Accepted t) :
    t'.Keys ∧ Accepted t' := by
  cases h with
  | appended r v _ hp h _ hfk => exact h.accepted hk hp hacc hfk
  | appendedPending r x p _ hp h =>
    have hm := (accepted_modeled hk hp).mp hacc
    exact ⟨h.keys hk, (accepted_modeled (h.keys hk) (h.grows.profile.trans hp)).mpr
      (h.accepted hk hp hm)⟩
  | phase d phase l l' hl h => exact ⟨h.keys hk, h.accepted hk hacc hl⟩
  | observed o h => exact h.accepted hk hacc
  | decided d h => exact h.accepted hk hacc
  | recoveryEnrolled x h => exact h.accepted hk hacc
  | modeledEnrolled p h => exact h.accepted hk hacc
  | qualifiedEnrolled q h => exact h.accepted hk hacc
  | checkpointed c h => exact h.accepted hk hacc

/-- Every transaction that commits rows leads from an accepted store to an accepted one. -/
theorem Txn.body_accepted {ρ : Type} {x : Txn E ρ} {published : Bool} {y : ρ} (hk : t.Keys)
    (hacc : Accepted t) (h : x.body E cap t = .ok (.wrote t' published, y)) :
    t'.Keys ∧ Accepted t' :=
  (Txn.body_written h).accepted hk hacc

end Writes

end Etzio
