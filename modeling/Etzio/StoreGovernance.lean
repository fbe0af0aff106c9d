import Etzio.StoreRuns

/-!
# Governed phase writes

A blocked transition advances only under an authorized retry. Observations, decisions
and phase writes of any connections interleave, and the barrier a phase write passes
looks at the whole block history of its event, while the replay checks each decision
against its own observation.

`governed_phase_writes` says that both views agree on every run : the replay of the
block history accepts every reachable state, and whenever a step adds a phase record,
its event had no block, or its latest block was answered by a retained retry
(`PhaseAllowed`).
-/

open CheckedRun Rows

namespace Etzio

variable {E : Env}

/-! ## The barrier -/

section Barrier

variable {t t' : E.Db} {d : Digest} {phase : EvidencePhase} {l l' : IntegrityLineageV1}

/-- The event is not blocked, or a retained decision authorizes a retry of the attempt
with the highest ordinal. -/
def PhaseAllowed (t : E.Db) (d : Digest) : Prop :=
  (∀ o ∈ t.observations, o.eventDigest ≠ d) ∨
    ∃ o ∈ t.observations, o.eventDigest = d ∧
      (∀ x ∈ t.observations, x.eventDigest = d → x.attemptOrdinal ≤ o.attemptOrdinal) ∧
      ∃ r ∈ t.decisions, r.blockedObservationId = o.observationId ∧
        r.disposition = .retryAuthorized

/-- `t'` has a phase record of the event that `t` does not have. -/
def AddsPhase (d : Digest) (t t' : E.Db) : Prop :=
  (∃ r ∈ t'.anchors, r ∉ t.anchors ∧ r.eventDigest = d) ∨
    (∃ r ∈ t'.candidates, r ∉ t.candidates ∧ r.eventDigest = d) ∨
    ∃ r ∈ t'.finalizations, r ∉ t.finalizations ∧ r.eventDigest = d

theorem not_addsPhase (ha : t'.anchors = t.anchors) (hc : t'.candidates = t.candidates)
    (hf : t'.finalizations = t.finalizations) : ¬AddsPhase d t t' := by
  rw [AddsPhase, ha, hc, hf]
  rintro (⟨r, hr, hn, -⟩ | ⟨r, hr, hn, -⟩ | ⟨r, hr, hn, -⟩) <;> exact hn hr

/-- Growth for one event adds phase records of that event only. -/
theorem Grows.eq_of_addsPhase {x : Digest} (hg : Grows x t t') (h : AddsPhase d t t') : d = x := by
  rcases h with ⟨r, hr, hn, rfl⟩ | ⟨r, hr, hn, rfl⟩ | ⟨r, hr, hn, rfl⟩
  · exact (hg.anchors.mem_or hr).resolve_left hn
  · exact (hg.candidates.mem_or hr).resolve_left hn
  · exact (hg.finalizations.mem_or hr).resolve_left hn

/-- The latest observation of an event has its highest ordinal. -/
theorem attemptOrdinal_le_latest {o : ObservationRow} (h : t.latestObservation d = some o)
    {x : ObservationRow} (hx : x ∈ t.observations) (hd : x.eventDigest = d) :
    x.attemptOrdinal ≤ o.attemptOrdinal := by
  obtain ⟨init, hinit⟩ := List.getLast?_eq_some_iff.mp h
  have hsorted : (t.observationRows d).Pairwise fun a b => a.attemptOrdinal ≤ b.attemptOrdinal :=
    orderBy_pairwise
  have hmem : x ∈ t.observationRows d := mem_observationRows.mpr ⟨hx, hd⟩
  rw [hinit] at hsorted hmem
  rcases List.mem_append.mp hmem with hmem | hmem
  · exact (List.pairwise_append.mp hsorted).2.2 x hmem o (List.mem_singleton_self o)
  · rw [List.mem_singleton.mp hmem]

/-- A phase write happens only where the block history allows it. -/
theorem PhaseWritten.allowed (h : PhaseWritten d phase l l' t t')
    (hl : loadIntegrityLineage E t d = .ok (some l))
    (hb : validateBlockedFinalityState E t = .ok ()) : PhaseAllowed t d := by
  have hd : l.pending.eventDigest = d := by
    obtain ⟨r, hlf⟩ := loadIntegrityLineage_some hl
    rw [hlf.pending, hlf.agrees.1]
    exact key_of_findBy hlf.row
  rcases validateBlockedFinalityState_eq_ok.mp hb with ⟨-, hnil, -⟩ | ⟨-, profile, hhist⟩
  · left
    simp [hnil]
  · cases ho : t.latestObservation d with
    | none =>
      -- Without a last row the event has no observation at all.
      left
      intro o hmem hod
      have hrow : o ∈ t.observationRows d := mem_observationRows.mpr ⟨hmem, hod⟩
      rw [List.getLast?_eq_none_iff.mp ho] at hrow
      exact absurd hrow List.not_mem_nil
    | some o =>
      right
      have hretry := requireGovernedPhaseWrite_spec hhist (hd.symm ▸ hl) h.governed
        (o := o) (hd.symm ▸ ho)
      obtain ⟨r, hr, hdisp⟩ := Option.map_eq_some_iff.mp hretry
      obtain ⟨hmem, hod⟩ := mem_of_latestObservation ho
      exact ⟨o, hmem, hod, fun x hx hxd => attemptOrdinal_le_latest ho hx hxd, r,
        mem_of_findBy hr, key_of_findBy hr, hdisp⟩

/-- An event that is not retained yet has no block. -/
theorem AppendWritten.allowed {e : EventV1} {x : PendingIntegrityTransitionV1}
    (h : AppendWritten e x t t') (hfk : t.ForeignKeys E.vaultForeignKeys) :
    PhaseAllowed t e.eventDigest := by
  left
  intro o ho hod
  obtain ⟨q, hq, hqd⟩ := hfk.observation o ho
  exact h.fresh q hq (hqd.trans hod)

/-- Every write that adds a phase record was allowed to. -/
theorem Written.allowed (h : Written t t') (hacc : Accepted t)
    (hb : validateBlockedFinalityState E t = .ok ()) (hadds : AddsPhase d t t') :
    PhaseAllowed t d := by
  cases h with
  | appended r v _ _ h => exact absurd hadds (by rw [h.eq]; exact not_addsPhase rfl rfl rfl)
  | appendedPending r x p _ _ h =>
    rw [h.grows.eq_of_addsPhase hadds]
    exact h.allowed hacc.foreignKeys
  | phase x phase l l' hl h =>
    obtain rfl := h.grows.eq_of_addsPhase hadds
    exact h.allowed hl hb
  | observed o h => exact absurd hadds (by rw [h.eq]; exact not_addsPhase rfl rfl rfl)
  | decided s h => exact absurd hadds (by rw [h.eq]; exact not_addsPhase rfl rfl rfl)
  | recoveryEnrolled x h => exact absurd hadds (by rw [h.eq]; exact not_addsPhase rfl rfl rfl)
  | modeledEnrolled p h => exact absurd hadds (by rw [h.eq]; exact not_addsPhase rfl rfl rfl)
  | qualifiedEnrolled q h => exact absurd hadds (by rw [h.eq]; exact not_addsPhase rfl rfl rfl)
  | checkpointed c h => exact absurd hadds (by rw [h.eq]; exact not_addsPhase rfl rfl rfl)

end Barrier

/-! ## Runs -/

section Runs

variable {s s' : Sys E} {ρ : Type} {i : ℕ} {x : Txn E ρ} {y : Except StoreError ρ}

/-- The replay of the block history accepts every reachable state. -/
theorem Sys.Reachable.blocked (h : s.Reachable) :
    validateBlockedFinalityState E s.tables = .ok () := by
  rcases h.accepted with hfresh | hacc
  · rw [hfresh]
    exact validateBlockedFinalityState_eq_ok.mpr (.inl ⟨rfl, rfl, rfl⟩)
  · cases hp : s.tables.profile with
    | legacy =>
      have hleg := (accepted_legacy hp).mp hacc
      exact validateBlockedFinalityState_eq_ok.mpr
        (.inl ⟨hleg.recoveryProfile, hleg.observations, hleg.decisions⟩)
    | modeled p => exact (h.modeledAccepted hp).blocked

theorem Step.allowed (h : s.Reachable) (hs : Step s i x y s') {d : Digest}
    (hadds : AddsPhase d s.tables s'.tables) : PhaseAllowed s.tables d := by
  rcases hs.written h.cacheSound with heq | ⟨reply, published, -, hacc, hx⟩
  · rw [heq] at hadds
    exact absurd hadds (not_addsPhase rfl rfl rfl)
  · exact (Txn.body_written hx).allowed hacc h.blocked hadds

end Runs

/-- In every reachable state the block history is accepted, and a step adds a phase
record only for an event that is not blocked or whose latest block was answered by a
retained retry. -/
theorem governed_phase_writes {s : Sys E} (h : s.Reachable) :
    validateBlockedFinalityState E s.tables = .ok () ∧
      ∀ (ρ : Type) (i : ℕ) (x : Txn E ρ) (y : Except StoreError ρ) (s' : Sys E) (d : Digest),
        Step s i x y s' → AddsPhase d s.tables s'.tables → PhaseAllowed s.tables d :=
  ⟨h.blocked, fun _ _ _ _ _ _ hs hadds => hs.allowed h hadds⟩

/-- The decision that lets the blocked second event go on. -/
def sampleRetry : SignedGovernedRecoveryDecisionV1 :=
  { sampleSeal sampleSecond with
    decision := { (sampleSeal sampleSecond).decision with disposition := .retryAuthorized } }

/-- The second event is blocked and its retry authorized. -/
def sampleRetried : Sys sampleEnv :=
  let s := (samplePended.perform 0
    (.retainBlockedFinalityObservation (sampleObservation 1 sampleSecond))).2
  (s.perform 1 (.retainGovernedRecoveryDecision sampleRetry)).2

theorem sampleRetried_reachable : sampleRetried.Reachable :=
  (samplePended_reachable.perform _ _).perform _ _

/-- An anchor statement is retained after a block whose retry the governor has authorized. -/
theorem governed_phase_writes_sample :
    validateBlockedFinalityState sampleEnv sampleRetried.tables = .ok () ∧
      AddsPhase sampleSecond.eventDigest sampleRetried.tables (sampleRetried.perform 0
        (.retainIntegrityAnchorStatement (sampleAnchor 1 sampleSecond) ())).2.tables ∧
      PhaseAllowed sampleRetried.tables sampleSecond.eventDigest := by
  obtain ⟨hblocked, hsteps⟩ := governed_phase_writes sampleRetried_reachable
  have hadds : AddsPhase sampleSecond.eventDigest sampleRetried.tables (sampleRetried.perform 0
      (.retainIntegrityAnchorStatement (sampleAnchor 1 sampleSecond) ())).2.tables := by
    unfold AddsPhase
    decide +kernel
  exact ⟨hblocked, hadds, hsteps _ 0 _ _ _ _ (sampleRetried.perform_step 0
    (.retainIntegrityAnchorStatement (sampleAnchor 1 sampleSecond) ())) hadds⟩

end Etzio
