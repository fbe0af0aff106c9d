import Etzio.StoreOrder

/-!
# What the replay accepts

The full replay authenticates the whole history from the start. `Accepted` says that it
accepts the tables, and `accepted_modeled` and `accepted_legacy` what that amounts to in
either profile. `Structured.of_core` brings the structural part back from what a single
write can change.
-/

open CheckedRun Rows

namespace Etzio

variable {E : Env}

/-- The full replay accepts the tables. -/
def Accepted (t : E.Db) : Prop := validateIntegrityStateUncached E t = .ok ()

instance (t : E.Db) : Decidable (Accepted t) :=
  match h : validateIntegrityStateUncached E t with
  | .ok () => isTrue h
  | .error e => isFalse fun h' => by rw [Accepted, h] at h'; cases h'

/-! ## Acceptance, by profile -/

section Profiles

variable {t : E.Db} {p : ModeledProfile}

/-- The retained block history is acceptable under an enrolled recovery profile. -/
structure BlockedHistory (t : E.Db) (profile : BlockedFinalityRecoveryProfileV1) : Prop where
  enrolled : requireEnrolledRecoveryProfile E t = .ok profile
  observations : ∀ o ∈ t.observations, ∃ os, blockedObservations E t o.eventDigest = .ok os
  decisions : ∀ r ∈ t.decisions, checkDecisionRow E t profile r = .ok ()
  latest : ∀ o ∈ t.observations, checkLatestObservation E t o.eventDigest = .ok ()

theorem mem_blockedEvents {d : Digest} :
    d ∈ t.blockedEvents ↔ ∃ o ∈ t.observations, o.eventDigest = d := by
  simp [Tables.blockedEvents]

theorem validateBlockedFinalityState_eq_ok :
    validateBlockedFinalityState E t = .ok () ↔
      (t.recoveryProfile = none ∧ t.observations = [] ∧ t.decisions = []) ∨
      (t.recoveryProfile ≠ none ∧ ∃ profile, BlockedHistory t profile) := by
  unfold validateBlockedFinalityState
  cases hr : t.recoveryProfile with
  | none => simp
  | some row =>
    simp only [reduceCtorEq, false_and, ne_eq, not_false_eq_true, true_and, false_or]
    constructor
    · intro h
      obtain ⟨profile, hp, h⟩ := bind_eq_ok.mp h
      obtain ⟨ho, h⟩ := unit_bind_eq_ok.mp h
      obtain ⟨hd, hl⟩ := unit_bind_eq_ok.mp h
      rw [forM_eq_ok] at ho hd hl
      refine ⟨profile, hp, fun o hmem => ?_, hd, fun o hmem => ?_⟩
      · obtain ⟨os, hos, -⟩ := bind_eq_ok.mp (ho _ (mem_blockedEvents.mpr ⟨o, hmem, rfl⟩))
        exact ⟨os, hos⟩
      · exact hl _ (mem_blockedEvents.mpr ⟨o, hmem, rfl⟩)
    · rintro ⟨profile, h⟩
      refine bind_eq_ok.mpr ⟨profile, h.enrolled, unit_bind_eq_ok.mpr ⟨?_,
        unit_bind_eq_ok.mpr ⟨forM_eq_ok.mpr h.decisions, ?_⟩⟩⟩
      · refine forM_eq_ok.mpr fun d hd => ?_
        obtain ⟨o, ho, rfl⟩ := mem_blockedEvents.mp hd
        obtain ⟨os, hos⟩ := h.observations o ho
        exact bind_eq_ok.mpr ⟨os, hos, rfl⟩
      · refine forM_eq_ok.mpr fun d hd => ?_
        obtain ⟨o, ho, rfl⟩ := mem_blockedEvents.mp hd
        exact h.latest o ho

/-- What the replay establishes about a modeled store. -/
structure ModeledAccepted (t : E.Db) (p : ModeledProfile) : Prop where
  qualified : ∃ q, qualifiedAcceptanceProfiles E t = .ok q
  foreignKeys : t.ForeignKeys E.vaultForeignKeys
  structured : Structured t
  replayed : ∃ s, replayRows E t p t.instanceOrder = .ok s
  blocked : validateBlockedFinalityState E t = .ok ()

theorem accepted_modeled (hk : t.Keys) (hp : t.profile = .modeled p) :
    Accepted t ↔ ModeledAccepted t p := by
  unfold Accepted validateIntegrityStateUncached
  rw [bind_eq_ok]
  constructor
  · rintro ⟨q, hq, h⟩
    obtain ⟨hfk, h⟩ := unit_bind_eq_ok.mp h
    rw [hp] at h
    obtain ⟨hst, h⟩ := unit_bind_eq_ok.mp h
    obtain ⟨s, hs, hb⟩ := bind_eq_ok.mp h
    rw [refuseIf_eq_ok, not_not] at hfk
    exact ⟨⟨q, hq⟩, hfk, (checkStructure_iff hk).mp hst, ⟨s, hs⟩, hb⟩
  · rintro ⟨⟨q, hq⟩, hfk, hst, ⟨s, hs⟩, hb⟩
    refine ⟨q, hq, unit_bind_eq_ok.mpr ⟨by simpa using hfk, ?_⟩⟩
    rw [hp]
    exact unit_bind_eq_ok.mpr ⟨(checkStructure_iff hk).mpr hst, bind_eq_ok.mpr ⟨s, hs, hb⟩⟩

/-- What the replay establishes about a legacy store : nothing typed is retained. -/
structure LegacyAccepted (t : E.Db) : Prop where
  acceptanceProfile : t.acceptanceProfile = none
  recoveryProfile : t.recoveryProfile = none
  foreignKeys : t.ForeignKeys E.vaultForeignKeys
  pending : t.pending = []
  anchors : t.anchors = []
  candidates : t.candidates = []
  finalizations : t.finalizations = []
  artifacts : t.artifacts = []
  mappings : t.mappings = []
  observations : t.observations = []
  decisions : t.decisions = []

theorem accepted_legacy (hp : t.profile = .legacy) : Accepted t ↔ LegacyAccepted t := by
  unfold Accepted validateIntegrityStateUncached
  rw [bind_eq_ok]
  constructor
  · rintro ⟨q, hq, h⟩
    obtain ⟨hfk, h⟩ := unit_bind_eq_ok.mp h
    rw [hp] at h
    obtain ⟨hempty, hb⟩ := unit_bind_eq_ok.mp h
    rw [refuseIf_eq_ok] at hfk hempty
    push Not at hfk hempty
    obtain ⟨h1, h2, h3, h4, h5, h6⟩ := hempty
    -- No profile matches a legacy store.
    have hacc : t.acceptanceProfile = none := by
      obtain ⟨hal, -⟩ := unit_bind_eq_ok.mp hq
      rw [refuseIf_eq_ok] at hal
      push Not at hal
      by_contra hne
      obtain ⟨x, hx⟩ := Option.ne_none_iff_exists'.mp hne
      have := hal x hx
      unfold qualifiedAligned at this
      rw [hp] at this
      exact this
    rcases validateBlockedFinalityState_eq_ok.mp hb with ⟨hr, ho, hd⟩ | ⟨-, profile, hbh⟩
    · exact ⟨hacc, hr, hfk, h1, h2, h3, h4, h5, h6, ho, hd⟩
    · obtain ⟨r, -, he⟩ := orRefuse_bind_eq_ok.mp hbh.enrolled
      obtain ⟨he, -⟩ := unit_bind_eq_ok.mp he
      rw [refuseIf_eq_ok, not_or, not_not, not_not] at he
      have := he.2
      unfold recoveryProfileMatchesStore at this
      rw [hp] at this
      exact this.elim
  · intro h
    refine ⟨none, ?_, unit_bind_eq_ok.mpr ⟨by simpa using h.foreignKeys, ?_⟩⟩
    · refine unit_bind_eq_ok.mpr ⟨by simp [h.acceptanceProfile], ?_⟩
      rw [h.acceptanceProfile]
      rfl
    · rw [hp]
      refine unit_bind_eq_ok.mpr ⟨?_, validateBlockedFinalityState_eq_ok.mpr
        (.inl ⟨h.recoveryProfile, h.observations, h.decisions⟩)⟩
      simp [h.pending, h.anchors, h.candidates, h.finalizations, h.artifacts, h.mappings]

/-- An accepted store satisfies its foreign keys. -/
theorem Accepted.foreignKeys (h : Accepted t) : t.ForeignKeys E.vaultForeignKeys := by
  unfold Accepted validateIntegrityStateUncached at h
  obtain ⟨q, -, h⟩ := bind_eq_ok.mp h
  obtain ⟨hfk, -⟩ := unit_bind_eq_ok.mp h
  simpa using hfk

end Profiles

/-! ## Structure after a write -/

section Core

variable {t t' : E.Db} {d : Digest} {phase : EvidencePhase}

/-- Rows that all have a parent are at most as many as the parents. -/
theorem length_le_of_parents {α β κ : Type} {f : α → κ} {g : β → κ} {l : List α} {m : List β}
    (hn : (l.map f).Nodup) (h : ∀ a ∈ l, ∃ b ∈ m, g b = f a) : l.length ≤ m.length := by
  have hsub : l.map f ⊆ m.map g := by
    intro k hk
    obtain ⟨a, ha, rfl⟩ := List.mem_map.mp hk
    obtain ⟨b, hb, hba⟩ := h a ha
    exact List.mem_map.mpr ⟨b, hb, hba⟩
  simpa using (hn.subperm hsub).length_le

/-- The phases' cardinalities and parents follow from the keys. -/
theorem Structured.of_core (hk : t.Keys) (hfk : t.ForeignKeys E.vaultForeignKeys)
    (count : t.events.length = t.pending.length)
    (event : ∀ e ∈ t.events, ∃ p ∈ t.pending,
      p.eventDigest = e.digest ∧ p.missionId = e.missionId ∧ p.eventSeq = e.seq)
    (rank : ∀ p ∈ t.pending, p.instanceSequence =
      (t.pending.filter fun q => q.instanceSequence < p.instanceSequence).length)
    (openOne : t.pending.length = t.finalizations.length ∨
      t.pending.length = t.finalizations.length + 1)
    (finalizedPrefix : ∀ p ∈ t.pending, p.instanceSequence < t.finalizations.length →
      t.IsFinalized p.eventDigest)
    (evidence : ∀ a ∈ t.artifacts, ∃ m ∈ t.mappings, m.evidenceId = a.evidenceId)
    (phase : ∀ m ∈ t.mappings, t.HasPhase m.phase m.eventDigest) : Structured t := by
  have hfc := length_le_of_parents hk.finalizationDigest hfk.finalization
  have hca := length_le_of_parents hk.candidateDigest hfk.candidate
  have hap := length_le_of_parents hk.anchorDigest hfk.anchor
  exact ⟨count, event, rank, hap, hfc.trans hca, hfc, hca, openOne, hfk.anchor, hfk.candidate,
    hfk.finalization, finalizedPrefix, evidence, phase⟩

/-- The provider evidence of one phase was added : new mappings are of this event and
phase, new artifacts are mapped. -/
structure EvidenceAdded (d : Digest) (phase : EvidencePhase) (t t' : E.Db) : Prop where
  mapped : ∀ m ∈ t'.mappings, m ∈ t.mappings ∨ m.eventDigest = d ∧ m.phase = phase
  evidence : ∀ a ∈ t'.artifacts, a ∈ t.artifacts ∨ ∃ m ∈ t'.mappings, m.evidenceId = a.evidenceId

theorem Grows.hasPhase (h : Grows d t t') {x : Digest} (hx : t.HasPhase phase x) :
    t'.HasPhase phase x := by
  cases phase with
  | pending => exact hx.imp fun p hp => ⟨h.pending.mem hp.1, hp.2⟩
  | anchorStatement => exact hx.imp fun p hp => ⟨h.anchors.mem hp.1, hp.2⟩
  | checkpointCandidate => exact hx.imp fun p hp => ⟨h.candidates.mem hp.1, hp.2⟩
  | finalization => exact hx.imp fun p hp => ⟨h.finalizations.mem hp.1, hp.2⟩

theorem EvidenceAdded.noOrphan (h : EvidenceAdded d phase t t') (hg : Grows d t t')
    (hs : Structured t) : ∀ a ∈ t'.artifacts, ∃ m ∈ t'.mappings, m.evidenceId = a.evidenceId := by
  intro a ha
  rcases h.evidence a ha with ha | hm
  · obtain ⟨m, hm, hma⟩ := hs.evidence a ha
    exact ⟨m, hg.mappings.mem hm, hma⟩
  · exact hm

theorem EvidenceAdded.hasPhase (h : EvidenceAdded d phase t t') (hg : Grows d t t')
    (hs : Structured t) (hp : t'.HasPhase phase d) :
    ∀ m ∈ t'.mappings, t'.HasPhase m.phase m.eventDigest := by
  intro m hm
  rcases h.mapped m hm with hm | ⟨rfl, rfl⟩
  · exact hg.hasPhase (hs.phase m hm)
  · exact hp

end Core

end Etzio
