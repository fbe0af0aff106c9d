import Etzio.StoreSystem

/-!
# What a write leaves alone

The rows of a transition all name its event, and provider evidence is only added. So
a write for one event (`Grows`) leaves the lineage, the event and the block history of
every other event as they were (`Grows.loadIntegrityLineage_eq`,
`Grows.replayStep_eq`, `Grows.blockedObservations_eq`).

`retainIntegrityEvidence_spec` says what retaining a record's evidence adds : artifacts
that are all mapped, and mappings of this event and phase.
-/

open CheckedRun Rows

namespace Etzio

variable {E : Env}

/-- How a body that retains a record ended, replying `y` : the record was retained
already, or it was written. -/
inductive Outcome {ρ : Type} (y : ρ) (kept : Prop) (written : E.Db → Prop) : Commit E × ρ → Prop
  | unchanged (h : kept) : Outcome y kept written (.unchanged, y)
  | wrote {t' : E.Db} {published : Bool} (h : written t') :
      Outcome y kept written (.wrote t' published, y)

/-! ## Growth for one event -/

/-- `t'` is `t` with rows of event `d` and provider evidence added. -/
structure Grows (d : Digest) (t t' : E.Db) : Prop where
  profile : t'.profile = t.profile
  acceptanceProfile : t'.acceptanceProfile = t.acceptanceProfile
  recoveryProfile : t'.recoveryProfile = t.recoveryProfile
  observations : t'.observations = t.observations
  decisions : t'.decisions = t.decisions
  events : Appends (fun r => r.digest = d) t.events t'.events
  pending : Appends (fun r => r.eventDigest = d) t.pending t'.pending
  anchors : Appends (fun r => r.eventDigest = d) t.anchors t'.anchors
  candidates : Appends (fun r => r.eventDigest = d) t.candidates t'.candidates
  finalizations : Appends (fun r => r.eventDigest = d) t.finalizations t'.finalizations
  mappings : Appends (fun r => r.eventDigest = d) t.mappings t'.mappings
  artifacts : Appends (fun _ => True) t.artifacts t'.artifacts

section Grows

variable {d x : Digest} {t t' : E.Db}

theorem Grows.isFinalized_iff (h : Grows d t t') (hx : x ≠ d) :
    t'.IsFinalized x ↔ t.IsFinalized x := by
  constructor
  · rintro ⟨f, hf, rfl⟩
    rcases h.finalizations.mem_or hf with hf | hf
    · exact ⟨f, hf, rfl⟩
    · exact absurd hf hx
  · rintro ⟨f, hf, rfl⟩
    exact ⟨f, h.finalizations.mem hf, rfl⟩

/-- The evidence of another event is still the evidence it was : its mappings are the
same, and their artifacts stay the artifacts of their identities. -/
theorem Grows.retainedEvidence_eq (h : Grows d t t') (hfk : t.ForeignKeys E.vaultForeignKeys)
    (hx : x ≠ d) (phase : EvidencePhase) :
    retainedEvidence t' x phase = retainedEvidence t x phase := by
  have hm : (t'.mappings.filter fun m => m.eventDigest = x ∧ m.phase = phase) =
      t.mappings.filter fun m => m.eventDigest = x ∧ m.phase = phase := by
    refine h.mappings.filter_eq _ fun m hm => ?_
    simp only [hm, decide_eq_false_iff_not, not_and]
    exact fun hd => absurd hd.symm hx
  unfold retainedEvidence
  rw [hm]
  refine List.filterMap_congr fun m hmem => ?_
  obtain ⟨a, ha, hid⟩ := hfk.artifact m (List.mem_filter.mp (mem_orderBy.mp hmem)).1
  rw [h.artifacts.findBy_of_isSome (findBy_isSome.mpr ⟨a, ha, hid⟩)]

theorem Grows.loadPhase_eq {ρ : Type} (h : Grows d t t')
    (hfk : t.ForeignKeys E.vaultForeignKeys) (hx : x ≠ d) (phase : EvidencePhase) (m : String)
    (row : Option (ρ × Bool)) (evidence : ρ → List ProviderEvidenceBlobV1) :
    loadPhase t' x phase m row evidence = loadPhase t x phase m row evidence := by
  unfold loadPhase verifyIntegrityEvidence
  rw [h.retainedEvidence_eq hfk hx]

/-- A write for one event leaves every other lineage as it was. -/
theorem Grows.loadIntegrityLineage_eq (h : Grows d t t')
    (hfk : t.ForeignKeys E.vaultForeignKeys) (hx : x ≠ d) :
    loadIntegrityLineage E t' x = loadIntegrityLineage E t x := by
  have hne {α : Type} (f : α → Digest) (a : α) (ha : f a = d) : f a ≠ x := by
    rw [ha]; exact hx.symm
  unfold loadIntegrityLineage anchorRow candidateRow finalizationRow verifyIntegrityEvidence
  rw [h.pending.findBy_eq (hne _), h.events.findBy_eq (hne _), h.anchors.findBy_eq (hne _),
    h.candidates.findBy_eq (hne _), h.finalizations.findBy_eq (hne _),
    h.retainedEvidence_eq hfk hx]
  simp only [h.loadPhase_eq hfk hx]

theorem Grows.eventForIntegrityDigest_eq (h : Grows d t t') (hx : x ≠ d) :
    eventForIntegrityDigest E t' x = eventForIntegrityDigest E t x := by
  unfold eventForIntegrityDigest
  rw [h.events.findBy_eq fun r hr => by rw [hr]; exact hx.symm]

end Grows

/-! ## What reads only the profiles -/

section Profiles

variable {t t' : E.Db}

theorem qualifiedAligned_eq (hp : t'.profile = t.profile) (q : E.Qualified) :
    qualifiedAligned E t' q = qualifiedAligned E t q := by
  unfold qualifiedAligned
  rw [hp]

theorem recoveryProfileMatchesStore_eq (hp : t'.profile = t.profile)
    (r : BlockedFinalityRecoveryProfileV1) :
    recoveryProfileMatchesStore E t' r = recoveryProfileMatchesStore E t r := by
  unfold recoveryProfileMatchesStore
  rw [hp]

theorem qualifiedAcceptanceProfiles_eq (hp : t'.profile = t.profile)
    (ha : t'.acceptanceProfile = t.acceptanceProfile) :
    qualifiedAcceptanceProfiles E t' = qualifiedAcceptanceProfiles E t := by
  unfold qualifiedAcceptanceProfiles
  simp only [qualifiedAligned_eq hp, ha]

/-- Verification against the qualified profiles reads nothing else of the tables. -/
theorem verifyQualifiedLineage_eq (hp : t'.profile = t.profile)
    (ha : t'.acceptanceProfile = t.acceptanceProfile) (l : IntegrityLineageV1)
    (g : Option IntegrityLineageV1) (b : Option E.Bundles) :
    verifyQualifiedLineage E t' l g b = verifyQualifiedLineage E t l g b := by
  have hmode : acceptanceMode t' = acceptanceMode t := by rw [acceptanceMode, ha, acceptanceMode]
  unfold verifyQualifiedLineage
  rw [qualifiedAcceptanceProfiles_eq hp ha, hmode]

theorem authenticateRetained_eq (hp : t'.profile = t.profile)
    (ha : t'.acceptanceProfile = t.acceptanceProfile) (p : ModeledProfile) (e : EventV1)
    (l : IntegrityLineageV1) (g m : Option IntegrityLineageV1) :
    authenticateRetained E t' p e l g m = authenticateRetained E t p e l g m := by
  unfold authenticateRetained
  rw [verifyQualifiedLineage_eq hp ha]

theorem requireEnrolledRecoveryProfile_eq (hp : t'.profile = t.profile)
    (hr : t'.recoveryProfile = t.recoveryProfile) :
    requireEnrolledRecoveryProfile E t' = requireEnrolledRecoveryProfile E t := by
  unfold requireEnrolledRecoveryProfile
  simp only [recoveryProfileMatchesStore_eq hp, hr]

end Profiles

section Grows

variable {d x : Digest} {t t' : E.Db}

/-- The replay of another event's row is as it was. -/
theorem Grows.replayStep_eq (h : Grows d t t') (hfk : t.ForeignKeys E.vaultForeignKeys)
    (p : ModeledProfile) {r : PendingRow} (hr : r.eventDigest ≠ d) (s : Predecessors) :
    replayStep E t' p s r = replayStep E t p s r := by
  unfold replayStep
  rw [h.loadIntegrityLineage_eq hfk hr, h.eventForIntegrityDigest_eq hr]
  simp only [authenticateRetained_eq h.profile h.acceptanceProfile]

theorem Grows.observationRows_eq (h : Grows d t t') (x : Digest) :
    t'.observationRows x = t.observationRows x := by
  rw [Tables.observationRows, h.observations, Tables.observationRows]

/-- The block history of another event is as it was. -/
theorem Grows.blockedObservations_eq (h : Grows d t t')
    (hfk : t.ForeignKeys E.vaultForeignKeys) (hx : x ≠ d) :
    blockedObservations E t' x = blockedObservations E t x := by
  unfold blockedObservations
  rw [h.observationRows_eq, requireEnrolledRecoveryProfile_eq h.profile h.recoveryProfile,
    h.loadIntegrityLineage_eq hfk hx]

end Grows

/-! ## Retained evidence -/

section Evidence

variable {rejected : String → StoreError} {cap : ℕ} {t t' : E.Db} {d : Digest}
  {phase : EvidencePhase} {blobs : List ProviderEvidenceBlobV1}

/-- Artifacts are added under identities that were free. -/
theorem retainArtifact_spec {x : Digest × List UInt8} (h : retainArtifact E t x = .ok t') :
    ∃ as, t' = { t with artifacts := t.artifacts ++ as } ∧ (∀ a ∈ as, a.evidenceId = x.1) ∧
      ((t.artifacts.map ArtifactRow.evidenceId).Nodup →
        ((t.artifacts ++ as).map ArtifactRow.evidenceId).Nodup) := by
  unfold retainArtifact at h
  obtain ⟨-, h⟩ := unit_bind_eq_ok.mp h
  obtain rfl : insertArtifact E t ⟨x.1, x.2.length, x.2⟩ = t' := Except.ok.inj h
  unfold insertArtifact
  split_ifs with hex
  · exact ⟨[], by simp, by simp, by simp⟩
  · exact ⟨_, rfl, by simp, fun hn => nodup_map_snoc hn fun b hb hbx => hex ⟨b, hb, hbx⟩⟩

theorem retainArtifacts_spec {l : List (Digest × List UInt8)}
    (h : l.foldlM (retainArtifact E) t = .ok t') :
    ∃ as, t' = { t with artifacts := t.artifacts ++ as } ∧
      (∀ a ∈ as, ∃ x ∈ l, x.1 = a.evidenceId) ∧
      ((t.artifacts.map ArtifactRow.evidenceId).Nodup →
        ((t.artifacts ++ as).map ArtifactRow.evidenceId).Nodup) := by
  induction l generalizing t with
  | nil =>
    obtain rfl : t = t' := Except.ok.inj h
    exact ⟨[], by simp, by simp, by simp⟩
  | cons x l ih =>
    obtain ⟨u, hu, h⟩ := foldlM_cons_eq_ok.mp h
    obtain ⟨as, rfl, has, hnas⟩ := retainArtifact_spec hu
    obtain ⟨bs, rfl, hbs, hnbs⟩ := ih h
    refine ⟨as ++ bs, by simp, fun a ha => ?_, fun hn => ?_⟩
    · rcases List.mem_append.mp ha with ha | ha
      · exact ⟨x, List.mem_cons_self, (has a ha).symm⟩
      · obtain ⟨y, hy, hya⟩ := hbs a ha
        exact ⟨y, List.mem_cons_of_mem x hy, hya⟩
    · rw [← List.append_assoc]
      exact hnbs (hnas hn)

/-- A slot adds at most its own mapping, and some mapping then has its evidence. -/
theorem retainSlot_spec {x : ProviderEvidenceBlobV1 × ℕ}
    (h : retainSlot E rejected d phase t x = .ok t') :
    ∃ ms, t' = { t with mappings := t.mappings ++ ms } ∧
      (∀ m ∈ ms, m.eventDigest = d ∧ m.phase = phase) ∧
      ∃ m ∈ t.mappings ++ ms, m.eventDigest = d ∧ m.evidenceId = x.1.evidenceId := by
  unfold retainSlot at h
  obtain ⟨u, hu, h⟩ := bind_eq_ok.mp h
  obtain ⟨hread, h⟩ := unit_bind_eq_ok.mp h
  obtain rfl : u = t' := Except.ok.inj h
  rw [mapError_eq_ok] at hu
  have hmem : ∃ m ∈ u.mappings, m.eventDigest = d ∧ m.evidenceId = x.1.evidenceId := by
    rw [refuseIf_eq_ok, not_not, Option.map_eq_some_iff] at hread
    obtain ⟨m, hm, heq⟩ := hread
    have hslot := List.find?_some hm
    simp only [Prod.mk.injEq, decide_eq_true_eq] at heq hslot
    exact ⟨m, List.mem_of_find?_eq_some hm, hslot.1, heq.2.2⟩
  unfold insertMapping at hu
  split_ifs at hu with hex
  · obtain rfl : t = u := Except.ok.inj hu
    exact ⟨[], by simp, by simp, by simpa using hmem⟩
  · obtain ⟨-, hu⟩ := unit_bind_eq_ok.mp hu
    obtain rfl := Except.ok.inj hu
    exact ⟨_, rfl, by simp, hmem⟩

theorem retainSlots_spec {l : List (ProviderEvidenceBlobV1 × ℕ)}
    (h : l.foldlM (retainSlot E rejected d phase) t = .ok t') :
    ∃ ms, t' = { t with mappings := t.mappings ++ ms } ∧
      (∀ m ∈ ms, m.eventDigest = d ∧ m.phase = phase) ∧
      ∀ x ∈ l, ∃ m ∈ t.mappings ++ ms, m.eventDigest = d ∧ m.evidenceId = x.1.evidenceId := by
  induction l generalizing t with
  | nil =>
    obtain rfl : t = t' := Except.ok.inj h
    exact ⟨[], by simp, by simp, by simp⟩
  | cons x l ih =>
    obtain ⟨u, hu, h⟩ := foldlM_cons_eq_ok.mp h
    obtain ⟨ms, rfl, hms, hx⟩ := retainSlot_spec hu
    obtain ⟨ns, rfl, hns, hl⟩ := ih h
    refine ⟨ms ++ ns, by simp, fun m hm => ?_, fun y hy => ?_⟩
    · exact (List.mem_append.mp hm).elim (hms m) (hns m)
    · rw [← List.append_assoc]
      rcases List.mem_cons.mp hy with rfl | hy
      · obtain ⟨m, hm, hmx⟩ := hx
        exact ⟨m, List.mem_append_left ns hm, hmx⟩
      · exact hl y hy

theorem mem_newEvidence {existing : List Digest} {x : Digest × List UInt8}
    (h : x ∈ newEvidence existing blobs) : ∃ b ∈ blobs, b.evidenceId = x.1 := by
  unfold newEvidence at h
  obtain ⟨i, hi, rfl⟩ := List.mem_map.mp h
  obtain ⟨b, hb, rfl⟩ := List.mem_map.mp (List.mem_dedup.mp hi)
  exact ⟨b, (List.mem_filter.mp hb).1, rfl⟩

/-- What retaining the evidence of a record adds : artifacts that the event maps, and
mappings of this event and phase. -/
theorem retainIntegrityEvidence_spec
    (h : retainIntegrityEvidence E rejected cap t d phase blobs = .ok t') :
    ∃ as ms, t' = { t with artifacts := t.artifacts ++ as, mappings := t.mappings ++ ms } ∧
      (∀ m ∈ ms, m.eventDigest = d ∧ m.phase = phase) ∧
      (∀ a ∈ as, ∃ m ∈ t.mappings ++ ms, m.eventDigest = d ∧ m.evidenceId = a.evidenceId) ∧
      ((t.artifacts.map ArtifactRow.evidenceId).Nodup →
        ((t.artifacts ++ as).map ArtifactRow.evidenceId).Nodup) := by
  unfold retainIntegrityEvidence at h
  obtain ⟨-, h⟩ := unit_bind_eq_ok.mp h
  obtain ⟨-, h⟩ := unit_bind_eq_ok.mp h
  obtain ⟨-, h⟩ := unit_bind_eq_ok.mp h
  obtain ⟨-, h⟩ := unit_bind_eq_ok.mp h
  obtain ⟨-, h⟩ := unit_bind_eq_ok.mp h
  obtain ⟨u, hu, h⟩ := bind_eq_ok.mp h
  obtain ⟨v, hv, h⟩ := bind_eq_ok.mp h
  obtain ⟨-, h⟩ := unit_bind_eq_ok.mp h
  obtain rfl : v = t' := Except.ok.inj h
  obtain ⟨as, rfl, has, hn⟩ := retainArtifacts_spec hu
  obtain ⟨ms, rfl, hms, hslots⟩ := retainSlots_spec hv
  refine ⟨as, ms, rfl, hms, fun a ha => ?_, hn⟩
  -- A new artifact belongs to some blob, and every blob has its slot.
  obtain ⟨x, hx, hxa⟩ := has a ha
  obtain ⟨b, hb, hbx⟩ := mem_newEvidence hx
  have hb' : b ∈ blobs.zipIdx.map Prod.fst := by rwa [List.zipIdx_map_fst]
  obtain ⟨y, hy, rfl⟩ := List.mem_map.mp hb'
  obtain ⟨m, hm, hmd, hmb⟩ := hslots y hy
  exact ⟨m, hm, hmd, by rw [hmb, ← hxa, ← hbx]⟩

end Evidence

end Etzio
