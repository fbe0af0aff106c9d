import Etzio.StoreCapacity
import Etzio.StoreGovernance

/-!
# The finality reserve

Before a pending record is inserted, a reserve of six record ceilings and the evidence
ceiling of a transition must be free. Nothing holds that reserve afterwards : blocked
observations, recovery decisions and a recovery enrollment are charged against the same
ceiling while the transition is open.

`finality_reserve` says what the reserve does cover : the four records of the transition
and its evidence, together with as much of the others as two record ceilings. Beyond
them a phase write can be refused for good (`finality_reserve_exhausted`).

The bytes of a store are divided for this by who they belong to : the open transition's
records (`recordBytes`) and evidence (`transitionEvidenceBytes`), the block history
(`recoveryBytes`), and everything else (`foreignBytes`), which no step adds to while the
transition is open.
-/

open CheckedRun Rows

namespace Etzio

variable {E : Env} {cap : ℕ} {t t' : E.Db} {d : Digest}

/-! ## Refusals that are not about capacity -/

section Ample

/-- A computation that is never refused with `EvidenceVaultCapacityError`. -/
abbrev Ample {α : Type} (x : Except StoreError α) : Prop :=
  FailsWith (fun e => e.kind ≠ .vaultCapacity) x

variable {l : IntegrityLineageV1} {b : E.Bundles}

theorem verifyIntegrityEvidence_ample {phase : EvidencePhase}
    {blobs : List ProviderEvidenceBlobV1} : Ample (verifyIntegrityEvidence t d phase blobs) :=
  .refuseIf (by decide)

theorem loadPhase_ample {ρ : Type} {phase : EvidencePhase} {m : String} {row : Option (ρ × Bool)}
    {f : ρ → List ProviderEvidenceBlobV1} : Ample (loadPhase t d phase m row f) := by
  unfold loadPhase
  split
  · exact .ok
  · exact .bind (.refuseIf (by simp [corruption])) fun _ _ =>
      .bind verifyIntegrityEvidence_ample fun _ _ => .ok

theorem loadIntegrityLineage_ample : Ample (loadIntegrityLineage E t d) := by
  unfold loadIntegrityLineage
  split
  · exact .ok
  · refine .bind (.refuseIf (by decide)) fun _ _ => .bind (.refuseIf (by decide)) fun _ _ =>
      .bind verifyIntegrityEvidence_ample fun _ _ => .bind loadPhase_ample fun _ _ =>
      .bind loadPhase_ample fun _ _ => .bind loadPhase_ample fun _ _ => .bind ?_ fun _ _ => .ok
    exact .mapError fun y => by simp [corruption]

theorem eventForIntegrityDigest_ample : Ample (eventForIntegrityDigest E t d) := by
  unfold eventForIntegrityDigest decodeEvent
  refine .bind (.orRefuse (by decide)) fun _ _ => .bind ?_ fun _ _ =>
    .bind (.refuseIf (by decide)) fun _ _ => .ok
  exact .mapError fun y => by simp [corruption]

theorem unresolvedIntegrityDigest_ample : Ample (unresolvedIntegrityDigest t) := by
  unfold unresolvedIntegrityDigest
  split
  · exact .ok
  · exact .ok
  · exact .error (by decide)

theorem loadFinalized_ample {row : Option PendingRow} {m : String} :
    Ample (loadFinalized E t row m) := by
  unfold loadFinalized
  split
  · exact .ok
  · exact .bind loadIntegrityLineage_ample fun _ _ =>
      .bind (.refuseIf (by simp [corruption])) fun _ _ => .ok

theorem previousIntegrityLineages_ample {m : Digest} : Ample (previousIntegrityLineages E t m) :=
  .bind loadFinalized_ample fun _ _ => .bind loadFinalized_ample fun _ _ => .ok

theorem predecessorLineages_ample : Ample (predecessorLineages E t d) :=
  .bind (.refuseIf (by decide)) fun _ _ => .bind (.orRefuse (by decide)) fun _ _ =>
    .bind (.refuseIf (by decide)) fun _ _ => .bind loadFinalized_ample fun _ _ =>
    .bind loadFinalized_ample fun _ _ => .ok

theorem verifyQualifiedLineage_ample {g : Option IntegrityLineageV1} {s : Option E.Bundles} :
    Ample (verifyQualifiedLineage E t l g s) := by
  unfold verifyQualifiedLineage qualifiedAcceptanceProfiles
  refine .bind (.bind (.refuseIf (by decide)) fun _ _ => .ok) fun _ _ =>
    .bind (.refuseIf (by decide)) fun _ _ => ?_
  split
  · exact .ok
  · refine .bind (.mapError fun y => by simp) fun _ _ => ?_
    split
    · exact .ok
    · exact .mapError fun y => by simp

theorem requireEnrolledRecoveryProfile_ample : Ample (requireEnrolledRecoveryProfile E t) :=
  .bind (.orRefuse (by decide)) fun _ _ => .bind (.refuseIf (by decide)) fun _ _ => .ok

theorem blockedObservations_ample : Ample (blockedObservations E t d) := by
  unfold blockedObservations
  split_ifs
  · exact .ok
  · refine .bind requireEnrolledRecoveryProfile_ample fun _ _ =>
      .bind loadIntegrityLineage_ample fun _ _ => .bind (.orRefuse (by decide)) fun _ _ =>
      .bind (.forM fun r _ => .bind (.refuseIf (by decide)) fun _ _ => ?_) fun _ _ => .ok
    exact .mapError fun y => by simp [corruption]

theorem requirePhaseWrite_ample {m : String} : Ample (requirePhaseWrite E t l d m) := by
  unfold requirePhaseWrite requireGovernedPhaseWrite
  refine .bind (.bind (.refuseIf (by decide)) fun _ _ => .bind blockedObservations_ample
    fun _ _ => ?_) fun _ _ => .bind unresolvedIntegrityDigest_ample fun _ _ => .refuseIf (by simp)
  split
  · exact .ok
  · exact .bind (.orRefuse (by decide)) fun _ _ =>
      .bind requireEnrolledRecoveryProfile_ample fun _ _ =>
      .bind (.mapError fun y => by simp [uncaughtRecovery]) fun _ _ => .refuseIf (by decide)

theorem resubmitPhase_ample {ρ : Type} {same : Bool} {m : String} {y : ρ} :
    Ample (resubmitPhase E t l d same m b y) :=
  .bind (.refuseIf (by simp [conflict])) fun _ _ => .bind predecessorLineages_ample fun _ _ =>
    .bind verifyQualifiedLineage_ample fun _ _ => .ok

end Ample

/-! ## Whose bytes -/

section Shares

variable (E) in
/-- The bytes of the block history. -/
def recoveryBytes (t : E.Db) : ℕ :=
  (t.observations.map fun r => E.recovery.observationBytes r.record).sum +
    (t.decisions.map fun r => E.recovery.decisionBytes r.record).sum +
    t.recoveryProfile.elim 0 fun r => digestTextBytes + E.recovery.profileBytes r.profile

variable (E) in
/-- The bytes of the records of the events that meet a condition. -/
def recordBytes (t : E.Db) (q : Digest → Prop) [DecidablePred q] : ℕ :=
  weigh (fun r => E.integrity.pendingBytes r.record) (fun r => q r.eventDigest) t.pending +
    weigh (fun r => E.integrity.anchorBytes r.record) (fun r => q r.eventDigest) t.anchors +
    weigh (fun r => E.integrity.candidateBytes r.record) (fun r => q r.eventDigest) t.candidates +
    weigh (fun r => E.integrity.finalizationBytes r.record) (fun r => q r.eventDigest)
      t.finalizations

/-- The evidence an event has retained. -/
def Tables.evidenceIds {V Q : Type} (t : Tables V Q) (d : Digest) : List Digest :=
  (t.mappings.filter fun m => m.eventDigest = d).map MappingRow.evidenceId

/-- The bytes of the evidence an event has retained. -/
def transitionEvidenceBytes (t : E.Db) (d : Digest) : ℕ :=
  weigh ArtifactRow.byteSize (fun a => a.evidenceId ∈ t.evidenceIds d) t.artifacts

variable (E) in
/-- The bytes that belong neither to an event nor to the block history. -/
def foreignBytes (t : E.Db) (d : Digest) : ℕ :=
  E.vaultUsedBytes t.vault + recordBytes E t (fun x => ¬x = d) +
    weigh ArtifactRow.byteSize (fun a => ¬a.evidenceId ∈ t.evidenceIds d) t.artifacts +
    t.acceptanceProfile.elim 0 E.qualifiedBytes +
    match t.profile with
    | .legacy => 0
    | .modeled p => E.modeledProfileBytes p

theorem recordBytes_add_not (t : E.Db) (d : Digest) :
    recordBytes E t (fun x => x = d) + recordBytes E t (fun x => ¬x = d) =
      (t.pending.map fun r => E.integrity.pendingBytes r.record).sum +
        (t.anchors.map fun r => E.integrity.anchorBytes r.record).sum +
        (t.candidates.map fun r => E.integrity.candidateBytes r.record).sum +
        (t.finalizations.map fun r => E.integrity.finalizationBytes r.record).sum := by
  unfold recordBytes
  rw [← weigh_add_not (q := fun r : PendingRow => r.eventDigest = d),
    ← weigh_add_not (q := fun r : AnchorRow => r.eventDigest = d),
    ← weigh_add_not (q := fun r : CandidateRow => r.eventDigest = d),
    ← weigh_add_not (q := fun r : FinalizationRow => r.eventDigest = d)]
  beta_reduce
  omega

/-- Every byte is counted once. -/
theorem logicalEvidenceStorageUsed_eq (t : E.Db) (d : Digest) :
    logicalEvidenceStorageUsed E t = foreignBytes E t d + recordBytes E t (fun x => x = d) +
      transitionEvidenceBytes t d + recoveryBytes E t := by
  have hrecords := recordBytes_add_not t d
  have hartifacts : transitionEvidenceBytes t d +
      weigh ArtifactRow.byteSize (fun a => ¬a.evidenceId ∈ t.evidenceIds d) t.artifacts =
        (t.artifacts.map ArtifactRow.byteSize).sum := weigh_add_not
  unfold logicalEvidenceStorageUsed foreignBytes recoveryBytes
  cases t.profile <;> dsimp only <;> omega

/-- An inserted record is charged to its event. -/
theorem RecordInserted.shares {phase : EvidencePhase} {blobs : List ProviderEvidenceBlobV1}
    {bytes : ℕ} {u : E.Db} (h : RecordInserted t d phase blobs bytes u) :
    foreignBytes E u d = foreignBytes E t d ∧ recoveryBytes E u = recoveryBytes E t ∧
      transitionEvidenceBytes u d = transitionEvidenceBytes t d := by
  cases h <;>
    exact ⟨by simp [foreignBytes, recordBytes, weigh_append, weigh_of_forall_not,
      Tables.evidenceIds, PendingRow.ofRecord], rfl, rfl⟩

/-- Evidence is charged to the event that maps it. -/
theorem retainIntegrityEvidence_shares {rejected : String → StoreError} {phase : EvidencePhase}
    {blobs : List ProviderEvidenceBlobV1}
    (h : retainIntegrityEvidence E rejected cap t d phase blobs = .ok t') :
    foreignBytes E t' d ≤ foreignBytes E t d ∧ recoveryBytes E t' = recoveryBytes E t := by
  obtain ⟨as, ms, rfl, hms, has, -⟩ := retainIntegrityEvidence_spec h
  refine ⟨?_, rfl⟩
  have hids : ∀ i ∈ t.evidenceIds d,
      i ∈ ({ t with artifacts := t.artifacts ++ as, mappings := t.mappings ++ ms } :
        E.Db).evidenceIds d := by
    intro i hi
    simp only [Tables.evidenceIds, List.filter_append, List.map_append] at hi ⊢
    exact List.mem_append_left _ hi
  have hnew : weigh ArtifactRow.byteSize (fun a => ¬a.evidenceId ∈
      ({ t with artifacts := t.artifacts ++ as, mappings := t.mappings ++ ms } :
        E.Db).evidenceIds d) as = 0 := by
    refine weigh_of_forall_not fun a ha hnot => hnot ?_
    obtain ⟨m, hm, hmd, hma⟩ := has a ha
    exact List.mem_map.mpr ⟨m, List.mem_filter.mpr ⟨hm, by simpa using hmd⟩, hma⟩
  have hold : weigh ArtifactRow.byteSize (fun a => ¬a.evidenceId ∈
      ({ t with artifacts := t.artifacts ++ as, mappings := t.mappings ++ ms } :
        E.Db).evidenceIds d) t.artifacts ≤
      weigh ArtifactRow.byteSize (fun a => ¬a.evidenceId ∈ t.evidenceIds d) t.artifacts :=
    weigh_mono fun a _ hnot hin => hnot (hids _ hin)
  unfold foreignBytes
  dsimp only
  rw [weigh_append, hnew]
  change _ + recordBytes E t (fun x => ¬x = d) + _ + _ + _ ≤ _
  omega

theorem PhaseCharged.shares {phase : EvidencePhase} {bytes : ℕ}
    (h : PhaseCharged cap d phase bytes t t') :
    foreignBytes E t' d ≤ foreignBytes E t d ∧ recoveryBytes E t' = recoveryBytes E t := by
  obtain ⟨u, blobs, rejected, hu, h⟩ := h
  obtain ⟨hforeign, hrecovery, -⟩ := hu.shares
  obtain ⟨hle, heq⟩ := retainIntegrityEvidence_shares h
  exact ⟨hle.trans hforeign.le, heq.trans hrecovery⟩

end Shares

/-! ## The reserve -/

section Reserve

variable {base : ℕ} {phase : EvidencePhase} {blobs : List ProviderEvidenceBlobV1} {bytes : ℕ}
  {u : E.Db}

/-- Every retained record is within the record ceiling. -/
structure RecordsWithin (t : E.Db) : Prop where
  pending : ∀ r ∈ t.pending, E.integrity.pendingBytes r.record ≤ maxIntegrityRecordBytesV1
  anchors : ∀ r ∈ t.anchors, E.integrity.anchorBytes r.record ≤ maxIntegrityRecordBytesV1
  candidates : ∀ r ∈ t.candidates, E.integrity.candidateBytes r.record ≤ maxIntegrityRecordBytesV1
  finalizations : ∀ r ∈ t.finalizations,
    E.integrity.finalizationBytes r.record ≤ maxIntegrityRecordBytesV1

theorem RecordInserted.within (h : RecordInserted t d phase blobs bytes u)
    (hsize : bytes ≤ maxIntegrityRecordBytesV1) (hw : RecordsWithin t) : RecordsWithin u := by
  cases h with
  | pending x =>
    exact { hw with pending := by simpa [or_imp, forall_and] using ⟨hw.pending, hsize⟩ }
  | anchorStatement a =>
    exact { hw with anchors := by simpa [or_imp, forall_and] using ⟨hw.anchors, hsize⟩ }
  | checkpointCandidate c =>
    exact { hw with candidates := by simpa [or_imp, forall_and] using ⟨hw.candidates, hsize⟩ }
  | finalization f =>
    exact { hw with finalizations := by simpa [or_imp, forall_and] using ⟨hw.finalizations, hsize⟩ }

theorem PhaseCharged.within (h : PhaseCharged cap d phase bytes t t')
    (hsize : bytes ≤ maxIntegrityRecordBytesV1) (hw : RecordsWithin t) : RecordsWithin t' := by
  obtain ⟨u, blobs, rejected, hu, h⟩ := h
  obtain ⟨as, ms, rfl, -⟩ := retainIntegrityEvidence_spec h
  exact { hu.within hsize hw with }

theorem Charged.within (h : Charged cap t t') (hw : RecordsWithin t) : RecordsWithin t' := by
  cases h with
  | appended r hp h =>
    obtain ⟨v, rfl⟩ := retainStaging_spec h
    exact { hw with }
  | appendedPending r x v h =>
    exact { h.charged.within h.size { hw with } with }
  | phase hopen hsize h => exact h.within hsize hw
  | observed o h => exact { hw with }
  | decided d h => exact { hw with }
  | recoveryEnrolled r hr h => exact { hw with }
  | modeledEnrolled p hp h => exact { hw with }
  | qualifiedEnrolled q hempty hq h => exact { hw with }
  | checkpointed c hp => exact { hw with }

theorem Sys.Reachable.recordsWithin {s : Sys E} (h : s.Reachable) : RecordsWithin s.tables := by
  obtain ⟨s₀, hfresh, -, hr⟩ := h
  induction hr with
  | refl =>
    rw [hfresh]
    constructor <;> exact fun r hr => absurd hr List.not_mem_nil
  | step _ hs ih =>
    rcases hs.charged with heq | hc
    · rw [heq]
      exact ih
    · exact hc.within ih

/-- While a transition is open, the reserve taken before it is free or used by itself and
by the block history since. `base` is the block history at its pending write. -/
structure Reserved (cap base : ℕ) (d : Digest) (t : E.Db) : Prop where
  pending : ∃ p ∈ t.pending, p.eventDigest = d
  room : ¬t.IsFinalized d →
    foreignBytes E t d + base + integrityFinalityCapacityReserveBytesV1 ≤ cap

/-- No row leaves the tables of a phase write. -/
theorem PhaseCharged.mono (h : PhaseCharged cap d phase bytes t t') :
    (∀ p ∈ t.pending, p ∈ t'.pending) ∧ ∀ f ∈ t.finalizations, f ∈ t'.finalizations := by
  obtain ⟨u, blobs, rejected, hu, h⟩ := h
  obtain ⟨as, ms, rfl, -⟩ := retainIntegrityEvidence_spec h
  cases hu with
  | pending x => exact ⟨fun p hp => List.mem_append_left _ hp, fun f hf => hf⟩
  | anchorStatement a => exact ⟨fun p hp => hp, fun f hf => hf⟩
  | checkpointCandidate c => exact ⟨fun p hp => hp, fun f hf => hf⟩
  | finalization f => exact ⟨fun p hp => hp, fun f hf => List.mem_append_left _ hf⟩

/-- Only the unresolved transition is open. -/
theorem eq_of_unresolvedIntegrityDigest {x : Digest}
    (h : unresolvedIntegrityDigest t = .ok (some x)) (hp : ∃ p ∈ t.pending, p.eventDigest = d)
    (hopen : ¬t.IsFinalized d) : x = d := by
  obtain ⟨p, hp, rfl⟩ := hp
  have hmem : p ∈ t.unresolved :=
    List.mem_filter.mpr ⟨mem_orderBy.mpr hp, by simpa using hopen⟩
  unfold unresolvedIntegrityDigest at h
  split at h
  · simp at h
  · rename_i q hq
    rw [hq] at hmem
    rw [List.mem_singleton.mp hmem]
    exact (Option.some.inj (Except.ok.inj h)).symm
  · cases h

/-- A store with a pending record is accepted, and enrolled. -/
theorem Sys.Reachable.accepted_of_pending {s : Sys E} (hs : s.Reachable) {p : PendingRow}
    (hp : p ∈ s.tables.pending) : Accepted s.tables ∧ Structured s.tables := by
  rcases hs.accepted with hfresh | hacc
  · rw [hfresh] at hp
    exact absurd hp List.not_mem_nil
  · cases hprofile : s.tables.profile with
    | legacy =>
      rw [((accepted_legacy hprofile).mp hacc).pending] at hp
      exact absurd hp List.not_mem_nil
    | modeled q => exact ⟨hacc, (hs.modeledAccepted hprofile).structured⟩

theorem Reserved.accepted {s : Sys E} (h : Reserved cap base d s.tables) (hs : s.Reachable) :
    Accepted s.tables ∧ Structured s.tables := by
  obtain ⟨p, hp, -⟩ := h.pending
  exact hs.accepted_of_pending hp

/-- No write takes from the reserve but the transition and the block history. -/
theorem Charged.reserved (h : Charged cap t t') (hacc : Accepted t)
    (hr : Reserved cap base d t) : Reserved cap base d t' := by
  obtain ⟨p, hp, hpd⟩ := hr.pending
  have hmodeled : t.profile ≠ .legacy := fun hleg => by
    rw [((accepted_legacy hleg).mp hacc).pending] at hp
    exact absurd hp List.not_mem_nil
  cases h with
  | appended r hleg h => exact absurd hleg hmodeled
  | appendedPending r x v h =>
    -- Nothing is appended while the transition is open.
    obtain ⟨hpmono, hfmono⟩ := h.charged.mono
    refine ⟨⟨p, hpmono p hp, hpd⟩, fun hnot => absurd ?_ hnot⟩
    obtain ⟨f, hf, hfd⟩ := h.finalized p hp
    exact ⟨f, hfmono f hf, hfd.trans hpd⟩
  | @phase t' x phase bytes hopen hsize h =>
    obtain ⟨hpmono, hfmono⟩ := h.mono
    refine ⟨⟨p, hpmono p hp, hpd⟩, fun hnot => ?_⟩
    have hnot' : ¬t.IsFinalized d := fun ⟨f, hf, hfd⟩ => hnot ⟨f, hfmono f hf, hfd⟩
    obtain rfl := eq_of_unresolvedIntegrityDigest hopen hr.pending hnot'
    have := h.shares.1
    have := hr.room hnot'
    omega
  | observed o h => exact ⟨hr.pending, hr.room⟩
  | decided d h => exact ⟨hr.pending, hr.room⟩
  | recoveryEnrolled r hnone h => exact ⟨hr.pending, hr.room⟩
  | modeledEnrolled q hleg h => exact absurd hleg hmodeled
  | qualifiedEnrolled q hempty hq h =>
    obtain ⟨e, he, -⟩ := hacc.foreignKeys.pending p hp
    rw [hempty] at he
    exact absurd he List.not_mem_nil
  | checkpointed c hleg => exact absurd hleg hmodeled

/-- The records of a transition with one more are four records at most. -/
theorem RecordInserted.recordBytes_le (h : RecordInserted t d phase blobs bytes u) (hk : t.Keys)
    (hw : RecordsWithin t) (hsize : bytes ≤ maxIntegrityRecordBytesV1)
    (hfresh : ¬t.HasPhase phase d) :
    recordBytes E u (fun x => x = d) ≤ 4 * maxIntegrityRecordBytesV1 := by
  have hpending := weigh_key_le (k := d) hk.pendingDigest hw.pending
  have hanchor := weigh_key_le (k := d) hk.anchorDigest hw.anchors
  have hcandidate := weigh_key_le (k := d) hk.candidateDigest hw.candidates
  have hfinalization := weigh_key_le (k := d) hk.finalizationDigest hw.finalizations
  unfold recordBytes
  -- The table of the new record had no row of the event.
  cases h with
  | pending x =>
    have hnone : weigh (fun r : PendingRow => E.integrity.pendingBytes r.record)
        (fun r => r.eventDigest = x.eventDigest) t.pending = 0 :=
      weigh_of_forall_not fun r hr hrd => hfresh ⟨r, hr, hrd⟩
    simp only [weigh_append, weigh_cons, hnone, PendingRow.ofRecord, if_true]
    simp only [weigh, List.filter_nil, List.map_nil, List.sum_nil] at *
    omega
  | anchorStatement a =>
    have hnone : weigh (fun r : AnchorRow => E.integrity.anchorBytes r.record)
        (fun r => r.eventDigest = a.eventDigest) t.anchors = 0 :=
      weigh_of_forall_not fun r hr hrd => hfresh ⟨r, hr, hrd⟩
    simp only [weigh_append, weigh_cons, hnone, if_true]
    simp only [weigh, List.filter_nil, List.map_nil, List.sum_nil] at *
    omega
  | checkpointCandidate c =>
    have hnone : weigh (fun r : CandidateRow => E.integrity.candidateBytes r.record)
        (fun r => r.eventDigest = c.eventDigest) t.candidates = 0 :=
      weigh_of_forall_not fun r hr hrd => hfresh ⟨r, hr, hrd⟩
    simp only [weigh_append, weigh_cons, hnone, if_true]
    simp only [weigh, List.filter_nil, List.map_nil, List.sum_nil] at *
    omega
  | finalization f =>
    have hnone : weigh (fun r : FinalizationRow => E.integrity.finalizationBytes r.record)
        (fun r => r.eventDigest = f.eventDigest) t.finalizations = 0 :=
      weigh_of_forall_not fun r hr hrd => hfresh ⟨r, hr, hrd⟩
    simp only [weigh_append, weigh_cons, hnone, if_true]
    simp only [weigh, List.filter_nil, List.map_nil, List.sum_nil] at *
    omega

/-- The evidence of a transition with that of one more record is within its ceiling. -/
def EvidenceWithin (t : E.Db) (d : Digest) (blobs : List ProviderEvidenceBlobV1) : Prop :=
  transitionEvidenceBytes t d +
      ((newEvidence (t.evidenceIds d) blobs).map fun x => x.2.length).sum ≤
    maxIntegrityTransitionEvidenceBytesV1

instance (t : E.Db) (d : Digest) (blobs : List ProviderEvidenceBlobV1) :
    Decidable (EvidenceWithin t d blobs) :=
  inferInstanceAs (Decidable (_ ≤ _))

/-- The record of a phase write and its evidence fit under the ceiling. -/
def HasRoom (cap : ℕ) (t : E.Db) (d : Digest) (phase : EvidencePhase)
    (blobs : List ProviderEvidenceBlobV1) (bytes : ℕ) : Prop :=
  unresolvedIntegrityDigest t = .ok (some d) → ¬t.HasPhase phase d → ∀ u,
    RecordInserted t d phase blobs bytes u →
      logicalEvidenceStorageUsed E u + globalBytes u (newEvidence (u.evidenceIds d) blobs) ≤ cap

/-- A reserve that the block history has not used up leaves room for every record. -/
theorem Reserved.hasRoom (hr : Reserved cap base d t) (hk : t.Keys) (hst : Structured t)
    (hw : RecordsWithin t)
    (hrec : recoveryBytes E t ≤ base + 2 * maxIntegrityRecordBytesV1)
    (hsize : bytes ≤ maxIntegrityRecordBytesV1) (hev : EvidenceWithin t d blobs) :
    HasRoom cap t d phase blobs bytes := by
  intro hopen hfresh u hu
  obtain ⟨init, row, -, -, -, -, hnot⟩ := hst.unresolved_last hk hopen
  have hroom := hr.room hnot
  have hrecords := hu.recordBytes_le hk hw hsize hfresh
  obtain ⟨hforeign, hrecovery, hevidence⟩ := hu.shares
  have hids : u.evidenceIds d = t.evidenceIds d := by cases hu <;> rfl
  have hglobal : globalBytes u (newEvidence (u.evidenceIds d) blobs) ≤
      ((newEvidence (u.evidenceIds d) blobs).map fun x => x.2.length).sum := by
    rw [← weigh_add_not (q := fun x : Digest × List UInt8 => ∀ a ∈ u.artifacts, a.evidenceId ≠ x.1)]
    exact Nat.le_add_right _ _
  unfold EvidenceWithin at hev
  rw [hids] at hglobal ⊢
  rw [logicalEvidenceStorageUsed_eq u d, hforeign, hrecovery, hevidence]
  unfold integrityFinalityCapacityReserveBytesV1 at hroom
  omega

end Reserve

/-! ## Phase writes -/

section Writes

variable {l : IntegrityLineageV1} {b : E.Bundles}

theorem retainArtifact_ample {x : Digest × List UInt8} : Ample (retainArtifact E t x) :=
  .bind (.refuseIf (by decide)) fun _ _ => .ok

theorem retainSlot_ample {rejected : String → StoreError}
    (hrej : ∀ m, (rejected m).kind ≠ .vaultCapacity) {phase : EvidencePhase}
    {x : ProviderEvidenceBlobV1 × ℕ} : Ample (retainSlot E rejected d phase t x) :=
  .bind (.mapError hrej) fun _ _ => .bind (.refuseIf (by decide)) fun _ _ => .ok

/-- Evidence that fits is not refused for capacity. -/
theorem retainIntegrityEvidence_ample {rejected : String → StoreError}
    (hrej : ∀ m, (rejected m).kind ≠ .vaultCapacity) {phase : EvidencePhase}
    {blobs : List ProviderEvidenceBlobV1}
    (hroom : logicalEvidenceStorageUsed E t + globalBytes t (newEvidence (t.evidenceIds d) blobs) ≤
      cap) : Ample (retainIntegrityEvidence E rejected cap t d phase blobs) := by
  unfold retainIntegrityEvidence
  refine .bind (.refuseIf (by decide)) fun _ _ => .bind (.refuseIf (by decide)) fun _ _ =>
    .bind (.refuseIf (by decide)) fun _ _ => .bind ?_ fun _ _ =>
    .bind (.refuseIf (by decide)) fun _ _ => .bind (.foldlM fun _ _ => retainArtifact_ample)
      fun _ _ => .bind (.foldlM fun _ _ => retainSlot_ample hrej) fun _ _ =>
      .bind (.refuseIf (by decide)) fun _ _ => .ok
  rw [refuseIf, if_neg]
  · exact .ok
  · exact Nat.not_lt.mpr hroom

theorem commit_ample {rejected : String → StoreError}
    (hrej : ∀ m, (rejected m).kind ≠ .vaultCapacity) : Ample ((commit E t).mapError rejected) :=
  .mapError hrej

theorem writeAnchor_ample {a : AnchorStatementRecordV1}
    (hroom : HasRoom cap t a.eventDigest .anchorStatement a.providerEvidence
      (E.integrity.anchorBytes a)) : Ample (writeAnchor E cap t l a b) := by
  unfold writeAnchor
  refine .bind requirePhaseWrite_ample fun _ hreq => .bind previousIntegrityLineages_ample
    fun _ _ => .bind (.mapError fun y => by simp [validationFailed, storeError]) fun _ _ =>
    .bind (.mapError fun y => by simp [uncaught]) fun _ _ => .bind verifyQualifiedLineage_ample
    fun _ _ => .bind (.mapError fun y => by simp [conflict]) fun u hu => .bind ?_ fun _ _ =>
    .bind loadIntegrityLineage_ample fun _ _ => .bind (.refuseIf (by decide)) fun _ _ =>
    commit_ample fun m => by simp [conflict]
  rw [mapError_eq_ok] at hu
  unfold insertAnchor at hu
  obtain ⟨hfree, hu⟩ := unit_bind_eq_ok.mp hu
  obtain rfl := Except.ok.inj hu
  rw [refuseIf_eq_ok] at hfree
  refine retainIntegrityEvidence_ample (fun m => by simp [conflict])
    (hroom (requirePhaseWrite_eq_ok hreq).2 ?_ _ (.anchorStatement a))
  rintro ⟨r, hr, hrd⟩
  exact hfree ⟨r, hr, .inl hrd⟩

theorem writeCandidate_ample {a : AnchorStatementRecordV1} {c : CheckpointCandidateRecordV1}
    (hroom : HasRoom cap t c.eventDigest .checkpointCandidate c.providerEvidence
      (E.integrity.candidateBytes c)) : Ample (writeCandidate E cap t l a c b) := by
  unfold writeCandidate
  refine .bind requirePhaseWrite_ample fun _ hreq => .bind eventForIntegrityDigest_ample
    fun _ _ => .bind (.refuseIf (by decide)) fun _ _ => .bind previousIntegrityLineages_ample
    fun _ _ => .bind (.mapError fun y => by simp [validationFailed, storeError]) fun _ _ =>
    .bind (.mapError fun y => by simp [uncaught]) fun _ _ => .bind verifyQualifiedLineage_ample
    fun _ _ => .bind (.mapError fun y => by simp [conflict]) fun u hu => .bind ?_ fun _ _ =>
    .bind loadIntegrityLineage_ample fun _ _ => .bind (.refuseIf (by decide)) fun _ _ =>
    commit_ample fun m => by simp [conflict]
  rw [mapError_eq_ok] at hu
  unfold insertCandidate at hu
  obtain ⟨hfree, hu⟩ := unit_bind_eq_ok.mp hu
  obtain rfl := Except.ok.inj hu
  rw [refuseIf_eq_ok] at hfree
  refine retainIntegrityEvidence_ample (fun m => by simp [conflict])
    (hroom (requirePhaseWrite_eq_ok hreq).2 ?_ _ (.checkpointCandidate c))
  rintro ⟨r, hr, hrd⟩
  exact hfree ⟨r, hr, .inl hrd⟩

theorem writeFinalization_ample {f : FinalizedIntegrityTransitionV1}
    (hroom : HasRoom cap t f.eventDigest .finalization f.providerEvidence
      (E.integrity.finalizationBytes f)) : Ample (writeFinalization E cap t l f b) := by
  unfold writeFinalization
  refine .bind requirePhaseWrite_ample fun _ hreq => .bind eventForIntegrityDigest_ample
    fun _ _ => .bind previousIntegrityLineages_ample
    fun _ _ => .bind (.mapError fun y => by simp [validationFailed, storeError]) fun _ _ =>
    .bind (.mapError fun y => by simp [uncaught]) fun _ _ => .bind verifyQualifiedLineage_ample
    fun _ _ => .bind (.mapError fun y => by simp [conflict]) fun u hu => .bind ?_ fun _ _ =>
    .bind loadIntegrityLineage_ample fun _ _ => .bind (.orRefuse (by decide)) fun _ _ =>
    .bind (.refuseIf (by decide)) fun _ _ =>
    .bind (.mapError fun y => by simp [corruption]) fun _ _ =>
    commit_ample fun m => by simp [conflict]
  rw [mapError_eq_ok] at hu
  unfold insertFinalization at hu
  obtain ⟨hfree, hu⟩ := unit_bind_eq_ok.mp hu
  obtain rfl := Except.ok.inj hu
  rw [refuseIf_eq_ok] at hfree
  refine retainIntegrityEvidence_ample (fun m => by simp [conflict])
    (hroom (requirePhaseWrite_eq_ok hreq).2 ?_ _ (.finalization f))
  rintro ⟨r, hr, hrd⟩
  exact hfree ⟨r, hr, .inl hrd⟩

/-- The event, the phase and the evidence of the record a phase write submits. -/
def Txn.submits {ρ : Type} :
    Txn E ρ → Option (Digest × EvidencePhase × List ProviderEvidenceBlobV1)
  | .retainIntegrityAnchorStatement a _ =>
    some (a.eventDigest, .anchorStatement, a.providerEvidence)
  | .retainIntegrityCheckpointCandidate c _ =>
    some (c.eventDigest, .checkpointCandidate, c.providerEvidence)
  | .finalizeIntegrityTransition f _ => some (f.eventDigest, .finalization, f.providerEvidence)
  | _ => none

/-- A phase write whose record has room is not refused for capacity. -/
theorem Txn.body_ample {ρ : Type} {x : Txn E ρ} {phase : EvidencePhase}
    {blobs : List ProviderEvidenceBlobV1} (hx : x.submits = some (d, phase, blobs))
    (hpre : x.precheck E = .ok ())
    (hroom : ∀ bytes, bytes ≤ maxIntegrityRecordBytesV1 → HasRoom cap t d phase blobs bytes) :
    Ample (x.body E cap t) := by
  cases x with
  | retainIntegrityAnchorStatement a b =>
    obtain ⟨rfl, rfl, rfl⟩ : a.eventDigest = d ∧ .anchorStatement = phase ∧
        a.providerEvidence = blobs := by simpa [Txn.submits] using hx
    refine .bind loadIntegrityLineage_ample fun _ _ => .bind (.orRefuse (by decide)) fun l _ => ?_
    cases l.anchorStatement with
    | some y => exact resubmitPhase_ample
    | none =>
      have hwrite := hroom _ (snapshotIntegrityRecord_le hpre)
      exact .bind (writeAnchor_ample hwrite) fun _ _ => .ok
  | retainIntegrityCheckpointCandidate c b =>
    obtain ⟨rfl, rfl, rfl⟩ : c.eventDigest = d ∧ .checkpointCandidate = phase ∧
        c.providerEvidence = blobs := by simpa [Txn.submits] using hx
    refine .bind (.refuseIf (by decide)) fun _ _ => .bind loadIntegrityLineage_ample fun _ _ =>
      .bind (.orRefuse (by decide)) fun l _ => .bind (.orRefuse (by decide)) fun _ _ => ?_
    cases l.checkpointCandidate with
    | some y => exact resubmitPhase_ample
    | none =>
      have hwrite := hroom _ (snapshotIntegrityRecord_le hpre)
      exact .bind (writeCandidate_ample hwrite) fun _ _ => .ok
  | finalizeIntegrityTransition f b =>
    obtain ⟨rfl, rfl, rfl⟩ : f.eventDigest = d ∧ .finalization = phase ∧
        f.providerEvidence = blobs := by simpa [Txn.submits] using hx
    refine .bind (.refuseIf (by decide)) fun _ _ => .bind unresolvedIntegrityDigest_ample
      fun _ _ => .bind loadIntegrityLineage_ample fun _ _ => .bind (.orRefuse (by decide))
      fun l _ => .bind (.refuseIf (by decide)) fun _ _ => ?_
    cases l.finalization with
    | some y => exact resubmitPhase_ample
    | none =>
      have hwrite := hroom _ (snapshotIntegrityRecord_le hpre)
      exact .bind (writeFinalization_ample hwrite) fun _ _ => .ok
  | _ => simp [Txn.submits] at hx

end Writes

/-! ## Runs -/

section Runs

variable {base : ℕ}

/-- A modeled append leaves its transition reserved. -/
theorem appendVerifiedEvent_reserved {r : AppendRequest E} {published : Bool} {e : EventV1}
    (hdossier : r.dossier ≠ none)
    (h : appendVerifiedEvent E cap t r = .ok (.wrote t' published, e)) :
    Reserved cap (recoveryBytes E t') r.event.eventDigest t' := by
  obtain ⟨⟨x, b⟩, hx⟩ := Option.ne_none_iff_exists'.mp hdossier
  obtain ⟨v, w, hc, rfl⟩ := appendVerifiedEvent_pendingCharged hx h
  obtain ⟨hforeign, hrecovery⟩ := hc.charged.shares
  have hsplit := logicalEvidenceStorageUsed_eq ({ t with vault := v } : E.Db) x.eventDigest
  have hreserve := hc.reserve
  rw [← hc.eventDigest]
  constructor
  · obtain ⟨as, ms, hw, -⟩ := retainIntegrityEvidence_spec hc.evidence
    refine ⟨.ofRecord E.integrity x, ?_, rfl⟩
    rw [hw]
    exact List.mem_append_right _ (List.mem_singleton_self _)
  · intro _
    change foreignBytes E w x.eventDigest + recoveryBytes E w + _ ≤ cap
    omega

/-- The reserve of an open transition outlives every run. -/
theorem Reaches.reserved {s s' : Sys E} (h : s.Reachable)
    (hcap : ∀ j, (s.conns j).maxVaultBytes = cap) (hres : Reserved cap base d s.tables)
    (hr : Reaches s s') : Reserved cap base d s'.tables := by
  induction hr with
  | refl => exact hres
  | @step s' s'' σ i y z hr hs ih =>
    rcases hs.charged with heq | hc
    · rw [heq]
      exact ih
    · rw [hr.ceiling i, hcap i] at hc
      exact hc.reserved (ih.accepted (h.reaches hr)).1 ih

/-- The reserve covers a transition, and two record ceilings of block history beside it.
Once its pending record is retained, none of its phase writes is refused for capacity while
the blocked observations, recovery decisions and recovery enrollment retained since then
are within those two. -/
theorem finality_reserve {s₀ s₁ s : Sys E} {i : ℕ} {r : AppendRequest E} {e : EventV1}
    (h₀ : s₀.Reachable) (hcap : ∀ j, (s₀.conns j).maxVaultBytes = cap)
    (hdossier : r.dossier ≠ none) (hpending : Step s₀ i (.appendVerifiedEvent r) (.ok e) s₁)
    (hr : Reaches s₁ s)
    (hrec : recoveryBytes E s.tables ≤
      recoveryBytes E s₁.tables + 2 * maxIntegrityRecordBytesV1)
    {ρ : Type} {x : Txn E ρ} {phase : EvidencePhase} {blobs : List ProviderEvidenceBlobV1}
    (hx : x.submits = some (r.event.eventDigest, phase, blobs)) (hsize : x.precheck E = .ok ())
    (hev : EvidenceWithin s.tables r.event.eventDigest blobs) (j : ℕ) {refusal : StoreError}
    (hrefused : transact E s.tables (s.conns j) x = .error refusal) :
    refusal.kind ≠ .vaultCapacity := by
  have h₁ : s₁.Reachable := h₀.reaches (Reaches.refl.step hpending)
  have hcap₁ : ∀ j, (s₁.conns j).maxVaultBytes = cap := fun j => (hpending.ceiling j).trans (hcap j)
  have hres₁ : Reserved cap (recoveryBytes E s₁.tables) r.event.eventDigest s₁.tables := by
    cases hpending with
    | unchanged h hx =>
      obtain ⟨u, hu, -⟩ := appendVerifiedEvent_spec (transact_eq_ok.mp hx).2
      simp at hu
    | wrote h hx hc =>
      have hbody := (transact_eq_ok.mp hx).2
      rw [hcap i] at hbody
      exact appendVerifiedEvent_reserved hdossier hbody
  have hres := hr.reserved h₁ hcap₁ hres₁
  have hs : s.Reachable := h₁.reaches hr
  obtain ⟨hacc, hstructured⟩ := hres.accepted hs
  have hauth : authenticate E s.tables (s.conns j) = .ok () :=
    (hs.cacheSound.authenticate_eq j).trans hacc
  unfold transact at hrefused
  rw [hauth, hr.ceiling j, hcap₁ j] at hrefused
  refine Txn.body_ample hx hsize (fun bytes hbytes => ?_) refusal hrefused
  exact hres.hasRoom hs.cacheSound.keys hstructured hs.recordsWithin hrec hbytes hev

/-- With an observation and a retry decision retained since the second event is pending, a
checkpoint candidate is refused for its missing anchor, and not for capacity. -/
theorem finality_reserve_sample :
    (sampleRetried.tables.observations.length = 1 ∧ sampleRetried.tables.decisions.length = 1) ∧
    (sampleRetried.perform 0 (.retainIntegrityCheckpointCandidate
      (sampleCheckpointCandidate 1 sampleSecond) ())).1 = .error (storeError
        "checkpoint candidate requires its retained anchor statement") ∧
    (storeError "checkpoint candidate requires its retained anchor statement").kind ≠
      .vaultCapacity := by
  have happended : (sampleFinalized.perform 1 (.appendVerifiedEvent
    (sampleRequest 1 sampleSecond).append)).1 = .ok sampleSecond := by decide +kernel
  have hstep : Step sampleFinalized 1 (.appendVerifiedEvent (sampleRequest 1 sampleSecond).append)
      (.ok sampleSecond) samplePended :=
    happended ▸ sampleFinalized.perform_step 1 _
  have hopened : Reaches sampleOpened sampleFinalized :=
    (((((Reaches.refl.perform _ _).perform _ _).perform _ _).perform _ _).perform _ _).perform _ _
  have hpre : (Txn.retainIntegrityCheckpointCandidate (sampleCheckpointCandidate 1 sampleSecond)
    ()).precheck sampleEnv = .ok () := by decide +kernel
  have hrefused : (sampleRetried.perform 0 (.retainIntegrityCheckpointCandidate
      (sampleCheckpointCandidate 1 sampleSecond) ())).1 =
      .error (storeError "checkpoint candidate requires its retained anchor statement") := by
    decide +kernel
  have hretried : Reaches samplePended sampleRetried := (Reaches.refl.perform 0 _).perform 1 _
  have hhistory : recoveryBytes sampleEnv sampleRetried.tables ≤
      recoveryBytes sampleEnv samplePended.tables + 2 * maxIntegrityRecordBytesV1 := by
    decide +kernel
  exact ⟨by decide +kernel, hrefused, finality_reserve sampleFinalized_reachable hopened.ceiling
    (by simp [PendingRequest.append]) hstep hretried hhistory rfl hpre
    (by decide +kernel) 0 (Sys.perform_refused hpre hrefused)⟩

end Runs

/-! ## Beyond the reserve -/

/-- The tables with another block history. -/
def Tables.withHistory {V Q : Type} (t : Tables V Q) (os : List ObservationRow)
    (ds : List DecisionRow) : Tables V Q :=
  { t with observations := os, decisions := ds }

section History

variable (t : E.Db) (os : List ObservationRow) (ds : List DecisionRow) (d : Digest)

theorem requireEnrolledRecoveryProfile_withHistory :
    requireEnrolledRecoveryProfile E (t.withHistory os ds) =
      requireEnrolledRecoveryProfile E t := rfl

theorem loadIntegrityLineage_withHistory :
    loadIntegrityLineage E (t.withHistory os ds) d = loadIntegrityLineage E t d := rfl

theorem unresolvedIntegrityDigest_withHistory :
    unresolvedIntegrityDigest (t.withHistory os ds) = unresolvedIntegrityDigest t := rfl

theorem previousIntegrityLineages_withHistory :
    previousIntegrityLineages E (t.withHistory os ds) d = previousIntegrityLineages E t d := rfl

theorem verifyQualifiedLineage_withHistory (l : IntegrityLineageV1)
    (g : Option IntegrityLineageV1) (b : Option E.Bundles) :
    verifyQualifiedLineage E (t.withHistory os ds) l g b = verifyQualifiedLineage E t l g b := rfl

theorem logicalEvidenceStorageUsed_withHistory (h : t.observations = []) (h' : t.decisions = []) :
    logicalEvidenceStorageUsed E (t.withHistory os ds) = logicalEvidenceStorageUsed E t +
      (os.map fun r => E.recovery.observationBytes r.record).sum +
      (ds.map fun r => E.recovery.decisionBytes r.record).sum := by
  unfold logicalEvidenceStorageUsed Tables.withHistory
  rw [h, h']
  dsimp only
  rw [List.map_nil, List.sum_nil, List.map_nil, List.sum_nil]
  omega

theorem withHistory_self {t : E.Db} (h : t.observations = []) (h' : t.decisions = []) :
    t.withHistory [] [] = t := by
  unfold Tables.withHistory
  rw [← h, ← h']

theorem logicalEvidenceStorageUsed_anchor (r : AnchorRow) :
    logicalEvidenceStorageUsed E { t with anchors := t.anchors ++ [r] } =
      logicalEvidenceStorageUsed E t + E.integrity.anchorBytes r.record := by
  unfold logicalEvidenceStorageUsed
  dsimp only
  rw [List.map_append, List.sum_append, List.map_singleton, List.sum_singleton]
  omega

end History

/-- What a write of an accepted store commits is reached. -/
theorem Reaches.write {s₀ s : Sys E} {p : PendingRow} {ρ : Type} {x : Txn E ρ} {t' : E.Db}
    {published : Bool} {y : ρ} (h : Reaches s₀ s) (h₀ : s₀.Reachable)
    (hp : p ∈ s.tables.pending) (hpre : x.precheck E = .ok ())
    (hx : x.body E (s₀.conns 0).maxVaultBytes s.tables = .ok (.wrote t' published, y)) :
    ∃ s', Reaches s₀ s' ∧ s'.tables = t' := by
  have hs := h₀.reaches h
  have hauth := (hs.cacheSound.authenticate_eq 0).trans (hs.accepted_of_pending hp).1
  have hwrote : transact E s.tables (s.conns 0) x = .ok (.wrote t' published, y) := by
    rw [transact_eq_ok, h.ceiling 0]
    exact ⟨hauth, hx⟩
  exact ⟨_, h.step (.wrote hpre hwrote (commitConns_committed _ _ _)), rfl⟩

/-- Evidence is refused for capacity once the storage is over its ceiling. -/
theorem retainIntegrityEvidence_exhausted {rejected : String → StoreError}
    {phase : EvidencePhase} {blobs : List ProviderEvidenceBlobV1}
    (hlength : blobs.length ≤ 256) (hformed : ∀ b ∈ blobs, b.WellFormed E.integrity)
    (hbefore : blobs.Pairwise ProviderEvidenceBlobV1.Before)
    (hused : cap < logicalEvidenceStorageUsed E t) :
    retainIntegrityEvidence E rejected cap t d phase blobs =
      .error ⟨.vaultCapacity, "integrity finality evidence exceeds logical database capacity"⟩ := by
  have hformed' : ¬∃ b ∈ blobs, ¬b.WellFormed E.integrity := fun ⟨b, hb, h⟩ => h (hformed b hb)
  unfold retainIntegrityEvidence
  rw [refuseIf_bind_of_not (Nat.not_lt.mpr hlength)]
  dsimp only
  rw [refuseIf_bind_of_not hformed', refuseIf_bind_of_not (not_not.mpr hbefore),
    refuseIf_bind_of (hused.trans_le (Nat.le_add_right _ _))]

section Flood

/-- The sample store with anchor statements of four KiB, and blocked observations and
recovery decisions of two. -/
def floodEnv : Env :=
  { sampleEnv with
    integrity := { sampleIntegrity with anchorBytes := fun _ => 4096 }
    recovery := { sampleEnv.recovery with
      observationBytes := fun _ => 2048
      decisionBytes := fun _ => 2048 } }

/-- A ceiling the sample transition can begin under. -/
def floodCeiling : ℕ := integrityFinalityCapacityReserveBytesV1 + 73

def floodOpened : Sys floodEnv where
  tables := floodEnv.freshDb
  conns _ := ⟨floodCeiling, ⟨0, 0⟩, none⟩

def floodEnrolled : Sys floodEnv :=
  let s := (floodOpened.perform 0 (.enrollModeledIntegrity sampleProfile)).2
  (s.perform 0 (.enrollBlockedFinalityRecovery sampleRecoveryProfile)).2

def floodRequest : AppendRequest floodEnv where
  event := sampleFirst
  expectedHead := genesisDigest
  staging := some ()
  dossier := some (samplePending 0 sampleFirst, ())

/-- The first event is appended. -/
def floodPended : Sys floodEnv :=
  (floodEnrolled.perform 0 (.appendVerifiedEvent floodRequest)).2

def floodLineage : IntegrityLineageV1 := ⟨samplePending 0 sampleFirst, none, none, none⟩

/-- The attempt after `n` others, blocked at the pending record. -/
def floodObservation (n : ℕ) : BlockedFinalityObservationV1 :=
  { sampleObservation 0 sampleFirst with
    blockedOperation := "prepare_anchor_statement"
    blockedReasonCode := "modeled_anchor_sequence_conflict"
    timeEvidence := sampleTime.map ProviderEvidenceBlobV1.reference
    attemptOrdinal := n + 1
    observationId := BitVec.ofNat 256 (1000 + n)
    ordinalPos := Nat.succ_pos n }

def floodRow (n : ℕ) : ObservationRow :=
  ⟨sampleFirst.eventDigest, n + 1, BitVec.ofNat 256 (1000 + n), .localPending, floodObservation n⟩

/-- The observations of the first `n` attempts. -/
def floodRows (n : ℕ) : List ObservationRow := (List.range n).map floodRow

theorem floodPended_reachable : floodPended.Reachable := by
  have h : floodOpened.Reachable := ⟨floodOpened, rfl, fun _ => rfl, .refl⟩
  exact ((h.perform _ _).perform _ _).perform _ _

theorem mem_floodRows {n : ℕ} {r : ObservationRow} :
    r ∈ floodRows n ↔ ∃ k < n, floodRow k = r := by
  simp [floodRows]

theorem floodObservationId_ne {k n : ℕ} (hk : k < n) (hn : n ≤ 57342) :
    BitVec.ofNat 256 (1000 + k) ≠ BitVec.ofNat 256 (1000 + n) := by
  intro h
  have := congrArg BitVec.toNat h
  simp only [BitVec.toNat_ofNat] at this
  omega

/-- What is retained before the first blocked attempt. -/
structure FloodBase (t : floodEnv.Db) : Prop where
  observations : t.observations = []
  decisions : t.decisions = []
  finalizations : t.finalizations = []
  anchors : t.anchors = []
  used : logicalEvidenceStorageUsed floodEnv t = 78
  profile : requireEnrolledRecoveryProfile floodEnv t = .ok sampleRecoveryProfile
  lineage : loadIntegrityLineage floodEnv t sampleFirst.eventDigest = .ok (some floodLineage)
  unresolved : unresolvedIntegrityDigest t = .ok (some sampleFirst.eventDigest)
  previous : previousIntegrityLineages floodEnv t 100 = .ok (none, none)
  foreignKeys : t.ForeignKeys floodEnv.vaultForeignKeys
  qualified : verifyQualifiedLineage floodEnv t ⟨samplePending 0 sampleFirst,
    some (sampleAnchor 0 sampleFirst), none, none⟩ none (some ()) = .ok ()
  pending : ∃ p ∈ t.pending, p.eventDigest = sampleFirst.eventDigest
  evidence : EvidenceWithin t sampleFirst.eventDigest (sampleAnchor 0 sampleFirst).providerEvidence

theorem floodPended_base : FloodBase floodPended.tables := by
  constructor <;> decide +kernel

variable {t : floodEnv.Db}

theorem floodObservation_binds (n : ℕ) : observationBinds floodEnv.integrity floodEnv.recovery
    sampleRecoveryProfile (floodObservation n) floodLineage.pending := by
  have h : observationBinds floodEnv.integrity floodEnv.recovery
    sampleRecoveryProfile (sampleObservation 0 sampleFirst) floodLineage.pending := by
    decide +kernel
  exact { h with }

theorem floodObservation_valid (n : ℕ) (current : Bool) :
    validateBlockedObservationLineageV1 floodEnv.integrity floodEnv.recovery sampleRecoveryProfile
      (floodObservation n) floodLineage current = .ok () := by
  refine unit_bind_eq_ok.mpr ⟨refuseIf_eq_ok.mpr (not_not.mpr (floodObservation_binds n)),
    unit_bind_eq_ok.mpr ⟨refuseIf_eq_ok.mpr (not_not.mpr rfl), refuseIf_eq_ok.mpr ?_⟩⟩
  rintro ⟨-, h⟩
  exact h rfl

theorem floodRows_sum (n : ℕ) : ((floodRows n).map fun r =>
    floodEnv.recovery.observationBytes r.record).sum = n * 2048 := by
  unfold floodRows
  rw [List.map_map]
  change ((List.range n).map fun _ => 2048).sum = _
  rw [List.map_const', List.sum_replicate, List.length_range, Nat.nsmul_eq_mul]

theorem FloodBase.used_eq (h : FloodBase t) (n : ℕ) :
    logicalEvidenceStorageUsed floodEnv (t.withHistory (floodRows n) []) = 78 + n * 2048 := by
  rw [logicalEvidenceStorageUsed_withHistory t _ _ h.observations h.decisions, h.used,
    floodRows_sum]
  rfl

theorem FloodBase.observed (h : FloodBase t) {n : ℕ} (hn : n < 57342) :
    retainBlockedFinalityObservation floodEnv floodCeiling
      (t.withHistory (floodRows n) []) (floodObservation n) =
      .ok (.wrote (t.withHistory (floodRows (n + 1)) []) false,
        floodObservation n) := by
  have hnone : (t.withHistory (floodRows n) []).attempt
      (floodObservation n).eventDigest (floodObservation n).attemptOrdinal = none := by
    refine findBy_eq_none.mpr fun r hr heq => ?_
    obtain ⟨k, hk, rfl⟩ := mem_floodRows.mp hr
    have : k + 1 = n + 1 := congrArg Prod.snd heq
    omega
  unfold retainBlockedFinalityObservation
  refine bind_eq_ok.mpr ⟨_, (requireEnrolledRecoveryProfile_withHistory t _ _).trans h.profile, ?_⟩
  rw [hnone]
  dsimp only
  refine bind_eq_ok.mpr ⟨_, (loadIntegrityLineage_withHistory t _ _ _).trans h.lineage,
    orRefuse_bind_eq_ok.mpr ⟨_, rfl, unit_bind_eq_ok.mpr ⟨?_, unit_bind_eq_ok.mpr ⟨?_,
      unit_bind_eq_ok.mpr ⟨?_, bind_eq_ok.mpr ⟨t.withHistory (floodRows (n + 1)) [],
        ?_, bind_eq_ok.mpr ⟨_, commit_eq_ok.mpr ⟨?_, rfl⟩, rfl⟩⟩⟩⟩⟩⟩⟩
  · rw [mapError_eq_ok]
    exact floodObservation_valid n true
  · rw [refuseIf_eq_ok]
    rintro ⟨r, hr, -, hle⟩
    obtain ⟨k, hk, rfl⟩ := mem_floodRows.mp hr
    have : n + 1 ≤ k + 1 := hle
    omega
  · rw [refuseIf_eq_ok, h.used_eq, Nat.not_lt]
    change 78 + n * 2048 + 2048 ≤ floodCeiling
    unfold floodCeiling integrityFinalityCapacityReserveBytesV1 maxIntegrityRecordBytesV1
      maxIntegrityTransitionEvidenceBytesV1
    omega
  · rw [mapError_eq_ok]
    refine unit_bind_eq_ok.mpr ⟨refuseIf_eq_ok.mpr ?_, unit_bind_eq_ok.mpr ⟨refuseIf_eq_ok.mpr ?_,
      unit_bind_eq_ok.mpr ⟨refuseIf_eq_ok.mpr ?_, ?_⟩⟩⟩
    · rintro ⟨f, hf, -⟩
      exact absurd (h.finalizations ▸ hf) List.not_mem_nil
    · rintro ⟨d, hd, -⟩
      exact absurd hd List.not_mem_nil
    · rintro ⟨r, hr, heq⟩
      obtain ⟨k, hk, rfl⟩ := mem_floodRows.mp hr
      rcases heq with heq | heq
      · exact floodObservationId_ne hk hn.le heq
      · have : k + 1 = n + 1 := congrArg Prod.snd heq
        omega
    · unfold floodRows
      rw [List.range_succ, List.map_append]
      rfl
  · exact { h.foreignKeys with
      observation := fun r hr => by
        obtain ⟨k, hk, rfl⟩ := mem_floodRows.mp hr
        exact h.pending
      decision := fun r hr => absurd hr List.not_mem_nil }

theorem floodPended_ceiling (j : ℕ) : (floodPended.conns j).maxVaultBytes = floodCeiling := by
  have h : Reaches floodOpened floodPended :=
    ((Reaches.refl.perform _ _).perform _ _).perform _ _
  exact h.ceiling j

/-- The store after `n` blocked attempts. -/
theorem FloodBase.blocked {s₀ : Sys floodEnv} (h₀ : s₀.Reachable) (hb : FloodBase s₀.tables)
    (hcap : ∀ j, (s₀.conns j).maxVaultBytes = floodCeiling)
    {n : ℕ} (hn : n ≤ 57342) : ∃ s, Reaches s₀ s ∧
    s.tables = s₀.tables.withHistory (floodRows n) [] := by
  induction n with
  | zero =>
    refine ⟨s₀, .refl, ?_⟩
    exact (withHistory_self hb.observations hb.decisions).symm
  | succ n ih =>
    obtain ⟨s, hr, ht⟩ := ih (by omega)
    obtain ⟨p, hp, -⟩ := hb.pending
    have hp : p ∈ s.tables.pending := by rw [ht]; exact hp
    have hx := hb.observed (n := n) (by omega)
    rw [← hcap 0, ← ht] at hx
    exact hr.write (x := .retainBlockedFinalityObservation (floodObservation n)) h₀ hp rfl hx

/-- The retry of the last attempt. -/
def floodDecision (n : ℕ) : SignedGovernedRecoveryDecisionV1 :=
  { sampleSeal sampleFirst with
    decision :=
      { (sampleSeal sampleFirst).decision with
        blockedOperation := "prepare_anchor_statement"
        blockedReasonCode := "modeled_anchor_sequence_conflict"
        blockedObservationId := (floodObservation n).observationId
        attemptOrdinal := n + 1
        disposition := .retryAuthorized } }

def floodDecisionRow (n : ℕ) : DecisionRow :=
  ⟨49, sampleFirst.eventDigest, (floodObservation n).observationId, .retryAuthorized,
    floodDecision n⟩

theorem floodRows_eq (ds : List DecisionRow) (n : ℕ) :
    (t.withHistory (floodRows n) ds).observationRows sampleFirst.eventDigest =
      floodRows n := by
  unfold Tables.observationRows
  have hall : (floodRows n).filter
      (fun o => o.eventDigest = sampleFirst.eventDigest) = floodRows n := by
    refine List.filter_eq_self.mpr fun r hr => ?_
    obtain ⟨k, -, rfl⟩ := mem_floodRows.mp hr
    exact decide_eq_true rfl
  change orderBy _ ((floodRows n).filter _) = _
  rw [hall]
  refine List.Pairwise.insertionSort_eq (List.pairwise_map.mpr ?_)
  exact List.pairwise_lt_range.imp fun h => Nat.succ_le_succ h.le

theorem FloodBase.observations_eq (h : FloodBase t) (ds : List DecisionRow) (n : ℕ) :
    blockedObservations floodEnv (t.withHistory (floodRows n) ds)
      sampleFirst.eventDigest = .ok ((List.range n).map floodObservation) := by
  refine (blockedObservations_eq_ok
    ((requireEnrolledRecoveryProfile_withHistory t _ _).trans h.profile)
    ((loadIntegrityLineage_withHistory t _ _ _).trans h.lineage)).mpr ⟨fun r hr => ?_, ?_⟩
  · rw [floodRows_eq] at hr
    obtain ⟨k, -, rfl⟩ := mem_floodRows.mp hr
    refine unit_bind_eq_ok.mpr ⟨refuseIf_eq_ok.mpr (not_not.mpr rfl), ?_⟩
    rw [mapError_eq_ok]
    exact floodObservation_valid k false
  · rw [floodRows_eq, floodRows, List.map_map]
    rfl

theorem floodDecision_authenticates (n : ℕ) : authenticateRecoveryDecisionV1 floodEnv.recovery
    sampleRecoveryProfile (floodDecision n) = .ok (floodDecision n).decision := rfl

theorem floodDecision_resolves (n : ℕ) :
    resolveBlockedFinalityV1 floodEnv.recovery sampleRecoveryProfile
      ((List.range (n + 1)).map floodObservation) .localPending (810 + sampleFirst.eventDigest)
    (floodDecision n) = .ok (floodDecision n).decision := by
  refine resolveBlockedFinalityV1_eq_ok.mpr ⟨floodObservation n, ?_, ?_,
    floodDecision_authenticates n, rfl, ⟨rfl, rfl, rfl, rfl, rfl, rfl, rfl, rfl, rfl, rfl⟩,
    rfl, rfl⟩
  · rw [List.getLast?_map, List.getLast?_range]
    rfl
  · exact List.pairwise_map.mpr (List.pairwise_lt_range.imp fun h => Nat.succ_lt_succ h)

theorem FloodBase.decided (h : FloodBase t) {n : ℕ} (hn : n < 57342) :
    retainGovernedRecoveryDecision floodEnv floodCeiling
      (t.withHistory (floodRows (n + 1)) []) (floodDecision n) =
      .ok (.wrote (t.withHistory (floodRows (n + 1)) [floodDecisionRow n]) false,
        49) := by
  have hnone : findBy DecisionRow.decisionId (floodDecision n).decision.decisionId
    (t.withHistory (floodRows (n + 1)) []).decisions = none := rfl
  unfold retainGovernedRecoveryDecision
  refine bind_eq_ok.mpr ⟨_, (requireEnrolledRecoveryProfile_withHistory t _ _).trans h.profile,
    bind_eq_ok.mpr ⟨_, mapError_eq_ok.mpr (floodDecision_authenticates n), ?_⟩⟩
  rw [hnone]
  dsimp only
  refine bind_eq_ok.mpr ⟨_, h.observations_eq [] (n + 1),
    bind_eq_ok.mpr ⟨_, (loadIntegrityLineage_withHistory t _ _ _).trans h.lineage,
    orRefuse_bind_eq_ok.mpr ⟨_, rfl, unit_bind_eq_ok.mpr ⟨refuseIf_eq_ok.mpr (not_not.mpr rfl),
      bind_eq_ok.mpr ⟨_, mapError_eq_ok.mpr (floodDecision_resolves n), unit_bind_eq_ok.mpr ⟨?_,
        bind_eq_ok.mpr ⟨t.withHistory (floodRows (n + 1)) [floodDecisionRow n],
        mapError_eq_ok.mpr ?_, bind_eq_ok.mpr ⟨_, commit_eq_ok.mpr ⟨?_, rfl⟩, rfl⟩⟩⟩⟩⟩⟩⟩⟩
  · rw [refuseIf_eq_ok, h.used_eq, Nat.not_lt]
    change 78 + (n + 1) * 2048 + 2048 ≤ floodCeiling
    unfold floodCeiling integrityFinalityCapacityReserveBytesV1 maxIntegrityRecordBytesV1
      maxIntegrityTransitionEvidenceBytesV1
    omega
  · refine unit_bind_eq_ok.mpr ⟨refuseIf_eq_ok.mpr ?_, unit_bind_eq_ok.mpr ⟨refuseIf_eq_ok.mpr
      (not_not.mpr ?_), unit_bind_eq_ok.mpr ⟨refuseIf_eq_ok.mpr ?_, rfl⟩⟩⟩
    · rintro ⟨d, hd, -⟩
      exact absurd hd List.not_mem_nil
    · refine ⟨floodRow n, mem_floodRows.mpr ⟨n, by omega, rfl⟩, rfl, rfl, fun r hr _ => ?_⟩
      obtain ⟨k, hk, rfl⟩ := mem_floodRows.mp hr
      change k + 1 ≤ n + 1
      omega
    · rintro ⟨d, hd, -⟩
      exact absurd hd List.not_mem_nil
  · exact { h.foreignKeys with
      observation := fun r hr => by
        obtain ⟨k, hk, rfl⟩ := mem_floodRows.mp hr
        exact h.pending
      decision := fun r hr => by
        obtain rfl := List.mem_singleton.mp hr
        exact ⟨floodRow n, mem_floodRows.mpr ⟨n, by omega, rfl⟩, rfl⟩ }

/-- The barrier lets the authorized retry write its anchor. -/
theorem FloodBase.barrier (h : FloodBase t) (n : ℕ) (message : String) :
    requirePhaseWrite floodEnv
      (t.withHistory (floodRows (n + 1)) [floodDecisionRow n]) floodLineage
      sampleFirst.eventDigest message = .ok () := by
  have hlast : ((List.range (n + 1)).map floodObservation).getLast? =
      some (floodObservation n) := by
    rw [List.getLast?_map, List.getLast?_range]
    rfl
  refine unit_bind_eq_ok.mpr ⟨unit_bind_eq_ok.mpr ⟨refuseIf_eq_ok.mpr ?_,
    bind_eq_ok.mpr ⟨_, h.observations_eq [floodDecisionRow n] (n + 1), ?_⟩⟩,
    bind_eq_ok.mpr ⟨_, (unresolvedIntegrityDigest_withHistory t _ _).trans h.unresolved,
      refuseIf_eq_ok.mpr (not_not.mpr rfl)⟩⟩
  · rintro ⟨d, hd, hseal⟩
    obtain rfl := List.mem_singleton.mp hd
    cases hseal
  · rw [hlast]
    have hrow : findBy DecisionRow.blockedObservationId (floodObservation n).observationId
        [floodDecisionRow n] = some (floodDecisionRow n) := by
      simp [findBy, floodDecisionRow]
    refine orRefuse_bind_eq_ok.mpr ⟨_, hrow, bind_eq_ok.mpr ⟨_,
      (requireEnrolledRecoveryProfile_withHistory t _ _).trans h.profile,
      bind_eq_ok.mpr ⟨_, mapError_eq_ok.mpr (floodDecision_resolves n),
        refuseIf_eq_ok.mpr (not_not.mpr rfl)⟩⟩⟩

def floodAnchorRow : AnchorRow :=
  ⟨sampleFirst.eventDigest, 820 + sampleFirst.eventDigest, 800, sampleAnchor 0 sampleFirst⟩

theorem FloodBase.exhausted (h : FloodBase t) {n : ℕ} (hn : n = 57341) :
    retainIntegrityAnchorStatement floodEnv floodCeiling
      (t.withHistory (floodRows (n + 1)) [floodDecisionRow n])
      (sampleAnchor 0 sampleFirst) () =
      .error ⟨.vaultCapacity, "integrity finality evidence exceeds logical database capacity"⟩ := by
  have hlineage := (loadIntegrityLineage_withHistory t (floodRows (n + 1))
    [floodDecisionRow n] sampleFirst.eventDigest).trans h.lineage
  have hprevious := (previousIntegrityLineages_withHistory t (floodRows (n + 1))
    [floodDecisionRow n] 100).trans h.previous
  have hvalid : validateAnchorStatement floodEnv.integrity (samplePending 0 sampleFirst)
    (sampleAnchor 0 sampleFirst) none = .ok () := by decide +kernel
  have hconstruct : IntegrityLineageV1.construct floodEnv.integrity (samplePending 0 sampleFirst)
    (some (sampleAnchor 0 sampleFirst)) none none = .ok
      ⟨samplePending 0 sampleFirst, some (sampleAnchor 0 sampleFirst), none, none⟩ := by
    decide +kernel
  have hvalues : ∀ b ∈ (sampleAnchor 0 sampleFirst).providerEvidence,
    b.WellFormed floodEnv.integrity := by decide +kernel
  have hinsert : insertAnchor floodEnv
      (t.withHistory (floodRows (n + 1)) [floodDecisionRow n]) floodAnchorRow =
      .ok { t.withHistory (floodRows (n + 1)) [floodDecisionRow n] with
        anchors := t.anchors ++ [floodAnchorRow] } := by
    refine unit_bind_eq_ok.mpr ⟨refuseIf_eq_ok.mpr ?_, rfl⟩
    rintro ⟨a, ha, -⟩
    exact absurd (h.anchors ▸ ha) List.not_mem_nil
  have hwrite : writeAnchor floodEnv floodCeiling
      (t.withHistory (floodRows (n + 1)) [floodDecisionRow n]) floodLineage
      (sampleAnchor 0 sampleFirst) () =
      .error ⟨.vaultCapacity, "integrity finality evidence exceeds logical database capacity"⟩ := by
    refine (bind_of_ok (h.barrier n _)).trans ?_
    refine (bind_of_ok hprevious).trans ?_
    refine (bind_of_ok (mapError_eq_ok.mpr hvalid)).trans ?_
    refine (bind_of_ok (mapError_eq_ok.mpr hconstruct)).trans ?_
    refine (bind_of_ok
      ((verifyQualifiedLineage_withHistory t _ _ _ _ _).trans h.qualified)).trans ?_
    refine (bind_of_ok (mapError_eq_ok.mpr hinsert)).trans (bind_of_error ?_)
    refine retainIntegrityEvidence_exhausted (by decide +kernel) hvalues (by decide +kernel) ?_
    have hused := logicalEvidenceStorageUsed_anchor
      (t.withHistory (floodRows (n + 1)) [floodDecisionRow n]) floodAnchorRow
    rw [logicalEvidenceStorageUsed_withHistory t _ _ h.observations h.decisions, h.used,
      floodRows_sum] at hused
    refine lt_of_lt_of_eq ?_ hused.symm
    change floodCeiling < 78 + (n + 1) * 2048 + 2048 + 4096
    unfold floodCeiling integrityFinalityCapacityReserveBytesV1 maxIntegrityRecordBytesV1
      maxIntegrityTransitionEvidenceBytesV1
    omega
  exact (bind_of_ok hlineage).trans ((bind_of_ok (orRefuse_eq_ok.mpr rfl)).trans
    (bind_of_error hwrite))

/-- After the last attempt was blocked and its retry authorized, the anchor has no room. -/
theorem FloodBase.exhausts {s₀ : Sys floodEnv} (h₀ : s₀.Reachable) (hb : FloodBase s₀.tables)
    (hcap : ∀ j, (s₀.conns j).maxVaultBytes = floodCeiling) {n : ℕ} (hn : n = 57341) :
    ∃ s, Reaches s₀ s ∧
      EvidenceWithin s.tables sampleFirst.eventDigest
        (sampleAnchor 0 sampleFirst).providerEvidence ∧
      transact floodEnv s.tables (s.conns 0)
        (.retainIntegrityAnchorStatement (sampleAnchor 0 sampleFirst) ()) = .error ⟨.vaultCapacity,
          "integrity finality evidence exceeds logical database capacity"⟩ := by
  obtain ⟨p, hp, -⟩ := hb.pending
  obtain ⟨s₁, hr₁, ht₁⟩ := hb.blocked (n := n + 1) h₀ hcap (by omega)
  have hp₁ : p ∈ s₁.tables.pending := by rw [ht₁]; exact hp
  have hdecided := hb.decided (n := n) (by omega)
  rw [← hcap 0, ← ht₁] at hdecided
  obtain ⟨s, hr, ht⟩ := hr₁.write (x := .retainGovernedRecoveryDecision (floodDecision n)) h₀ hp₁
    rfl hdecided
  have hp' : p ∈ s.tables.pending := by rw [ht]; exact hp
  have hs := h₀.reaches hr
  have hauth := (hs.cacheSound.authenticate_eq 0).trans (hs.accepted_of_pending hp').1
  refine ⟨s, hr, ?_, (bind_of_ok hauth).trans ?_⟩
  · rw [ht]
    exact hb.evidence
  · rw [ht, hr.ceiling 0, hcap 0]
    exact hb.exhausted hn

theorem floodEnrolled_reachable : floodEnrolled.Reachable := by
  have h : floodOpened.Reachable := ⟨floodOpened, rfl, fun _ => rfl, .refl⟩
  exact (h.perform _ _).perform _ _

theorem floodEnrolled_ceiling (j : ℕ) : (floodEnrolled.conns j).maxVaultBytes = floodCeiling := by
  have h : Reaches floodOpened floodEnrolled := (Reaches.refl.perform _ _).perform _ _
  exact h.ceiling j

theorem floodPended_step :
    Step floodEnrolled 0 (.appendVerifiedEvent floodRequest) (.ok sampleFirst) floodPended := by
  have h : (floodEnrolled.perform 0 (.appendVerifiedEvent floodRequest)).1 = .ok sampleFirst := by
    decide +kernel
  exact h ▸ floodEnrolled.perform_step 0 (.appendVerifiedEvent floodRequest)

/-- The last attempt's retry is refused its anchor. -/
theorem finality_reserve_exhausted : ∃ s : Sys floodEnv, floodEnrolled.Reachable ∧
    (∀ j, (floodEnrolled.conns j).maxVaultBytes = floodCeiling) ∧
    Step floodEnrolled 0 (.appendVerifiedEvent floodRequest) (.ok sampleFirst) floodPended ∧
    Reaches floodPended s ∧
    (Txn.retainIntegrityAnchorStatement (sampleAnchor 0 sampleFirst) ()).precheck floodEnv =
      .ok () ∧
    EvidenceWithin s.tables sampleFirst.eventDigest (sampleAnchor 0 sampleFirst).providerEvidence ∧
    transact floodEnv s.tables (s.conns 0)
      (.retainIntegrityAnchorStatement (sampleAnchor 0 sampleFirst) ()) = .error ⟨.vaultCapacity,
        "integrity finality evidence exceeds logical database capacity"⟩ := by
  obtain ⟨s, hr, hev, hx⟩ := floodPended_base.exhausts floodPended_reachable floodPended_ceiling rfl
  exact ⟨s, floodEnrolled_reachable, floodEnrolled_ceiling, floodPended_step, hr, rfl, hev, hx⟩

end Flood

end Etzio
