import Etzio.EvidenceVault
import Etzio.StoreRuns

/-!
# The byte ceiling of a store

Ten operations add bytes to a store, each under a check of its own : the vault counts
its artifacts alone, a pending record is preceded by a reserve and followed by the check
of its evidence, and every other record is counted before it is inserted. A store that
is opened counts everything once (`openStore`).

`logical_storage_bounded` says that these checks agree : while every connection has the
same ceiling, the logical storage stays within it in every state of every run, and the
store can always be opened again. The vault is the one of `VaultEnv` ; the bodies that
do not touch it are treated for every environment.
-/

open CheckedRun Rows

namespace Etzio

/-! ## Opening -/

/-- The checks `__init__` makes of an existing database. -/
def openStore (E : Env) (maxVaultBytes : ℕ) (t : E.Db) : Except StoreError Unit := do
  refuseIf (maxVaultBytes < E.vaultUsedBytes t.vault)
    ⟨.vaultCapacity,
      "retained unique evidence exceeds the configured database vault byte ceiling"⟩
  validateIntegrityStateUncached E t
  refuseIf (maxVaultBytes < logicalEvidenceStorageUsed E t)
    ⟨.vaultCapacity,
      "retained vault plus integrity evidence exceeds the configured byte ceiling"⟩

variable {E : Env} {cap : ℕ} {t t' : E.Db}

theorem vaultUsedBytes_le (t : E.Db) :
    E.vaultUsedBytes t.vault ≤ logicalEvidenceStorageUsed E t := by
  unfold logicalEvidenceStorageUsed
  omega

/-- A store within its ceiling opens exactly when its replay succeeds. -/
theorem openStore_eq (h : logicalEvidenceStorageUsed E t ≤ cap) :
    openStore E cap t = validateIntegrityStateUncached E t := by
  have hvault : ¬cap < E.vaultUsedBytes t.vault :=
    Nat.not_lt.mpr ((vaultUsedBytes_le t).trans h)
  unfold openStore
  rw [refuseIf, if_neg hvault, refuseIf, if_neg (Nat.not_lt.mpr h)]
  cases validateIntegrityStateUncached E t <;> rfl

/-! ## Provider evidence -/

section Evidence

variable {rejected : String → StoreError} {d : Digest} {phase : EvidencePhase}
  {blobs : List ProviderEvidenceBlobV1}

/-- The bytes of the provider evidence. -/
def artifactBytes (t : E.Db) : ℕ := (t.artifacts.map ArtifactRow.byteSize).sum

/-- The bytes that evidence adds to the artifacts of a store. -/
def globalBytes (t : E.Db) (l : List (Digest × List UInt8)) : ℕ :=
  weigh (fun x => x.2.length) (fun x => ∀ a ∈ t.artifacts, a.evidenceId ≠ x.1) l

theorem retainArtifact_bytes {x : Digest × List UInt8} (h : retainArtifact E t x = .ok t') :
    artifactBytes t' ≤ artifactBytes t +
        (if ∀ a ∈ t.artifacts, a.evidenceId ≠ x.1 then x.2.length else 0) ∧
      ∀ a ∈ t.artifacts, a ∈ t'.artifacts := by
  unfold retainArtifact at h
  obtain ⟨-, h⟩ := unit_bind_eq_ok.mp h
  obtain rfl := Except.ok.inj h
  unfold insertArtifact
  split_ifs with hex hnew hnew
  · exact ⟨Nat.le_add_right _ _, fun a ha => ha⟩
  · exact ⟨le_rfl, fun a ha => ha⟩
  · exact ⟨by simp [artifactBytes], fun a ha => List.mem_append_left _ ha⟩
  · push Not at hex
    exact absurd hex hnew

/-- A run of insertions adds at most the bytes whose identities were free before it. -/
theorem retainArtifacts_bytes {t₀ : E.Db} {l : List (Digest × List UInt8)}
    (hbase : ∀ a ∈ t₀.artifacts, a ∈ t.artifacts)
    (h : l.foldlM (retainArtifact E) t = .ok t') :
    artifactBytes t' ≤ artifactBytes t + globalBytes t₀ l := by
  induction l generalizing t with
  | nil =>
    obtain rfl : t = t' := Except.ok.inj h
    exact Nat.le_add_right _ _
  | cons x l ih =>
    obtain ⟨u, hu, h⟩ := foldlM_cons_eq_ok.mp h
    obtain ⟨hbytes, hkept⟩ := retainArtifact_bytes hu
    have hrest := ih (fun a ha => hkept a (hbase a ha)) h
    have hle : (if ∀ a ∈ t.artifacts, a.evidenceId ≠ x.1 then x.2.length else 0) ≤
        if ∀ a ∈ t₀.artifacts, a.evidenceId ≠ x.1 then x.2.length else 0 := by
      split_ifs with hfree hfree₀ hfree₀
      · exact le_rfl
      · exact absurd (fun a ha => hfree a (hbase a ha)) hfree₀
      · exact Nat.zero_le _
      · exact le_rfl
    rw [globalBytes, weigh_cons]
    rw [globalBytes] at hrest
    omega

/-- Evidence is the only thing that changes when it is retained. -/
theorem logicalEvidenceStorageUsed_artifacts (as : List ArtifactRow) (ms : List MappingRow) :
    logicalEvidenceStorageUsed E { t with artifacts := as, mappings := ms } + artifactBytes t =
      logicalEvidenceStorageUsed E t + (as.map ArtifactRow.byteSize).sum := by
  unfold logicalEvidenceStorageUsed artifactBytes
  dsimp only
  omega

/-- The check that precedes the insertions of evidence covers them. -/
theorem retainIntegrityEvidence_capacity
    (h : retainIntegrityEvidence E rejected cap t d phase blobs = .ok t') :
    logicalEvidenceStorageUsed E t' ≤ cap := by
  obtain ⟨as, ms, rfl, -⟩ := retainIntegrityEvidence_spec h
  unfold retainIntegrityEvidence at h
  obtain ⟨-, h⟩ := unit_bind_eq_ok.mp h
  obtain ⟨-, h⟩ := unit_bind_eq_ok.mp h
  obtain ⟨-, h⟩ := unit_bind_eq_ok.mp h
  obtain ⟨hroom, h⟩ := unit_bind_eq_ok.mp h
  obtain ⟨-, h⟩ := unit_bind_eq_ok.mp h
  obtain ⟨u, hu, h⟩ := bind_eq_ok.mp h
  obtain ⟨v, hv, h⟩ := bind_eq_ok.mp h
  obtain ⟨-, h⟩ := unit_bind_eq_ok.mp h
  obtain rfl := Except.ok.inj h
  obtain ⟨bs, rfl, -⟩ := retainArtifacts_spec hu
  obtain ⟨ns, hns, -⟩ := retainSlots_spec hv
  have has : t.artifacts ++ as = t.artifacts ++ bs := congrArg Tables.artifacts hns
  have hbytes := retainArtifacts_bytes (fun a ha => ha) hu
  have hsum := logicalEvidenceStorageUsed_artifacts (t := t) (t.artifacts ++ bs) (t.mappings ++ ms)
  rw [refuseIf_eq_ok, Nat.not_lt] at hroom
  rw [has]
  change logicalEvidenceStorageUsed E t + globalBytes t _ ≤ cap at hroom
  change ((t.artifacts ++ bs).map ArtifactRow.byteSize).sum ≤ _ at hbytes
  omega

end Evidence

/-! ## What a write was charged for -/

section Charges

/-- `u` is `t` with the record of a phase inserted, before its evidence. The number is the
size of the record. -/
inductive RecordInserted (t : E.Db) : Digest → EvidencePhase → List ProviderEvidenceBlobV1 → ℕ →
    E.Db → Prop
  | pending (x : PendingIntegrityTransitionV1) :
      RecordInserted t x.eventDigest .pending x.providerEvidence (E.integrity.pendingBytes x)
        { t with pending := t.pending ++ [.ofRecord E.integrity x] }
  | anchorStatement (a : AnchorStatementRecordV1) :
      RecordInserted t a.eventDigest .anchorStatement a.providerEvidence
        (E.integrity.anchorBytes a)
        { t with anchors := t.anchors ++
          [⟨a.eventDigest, E.integrity.anchorRecordId a, a.anchorStatementId, a⟩] }
  | checkpointCandidate (c : CheckpointCandidateRecordV1) :
      RecordInserted t c.eventDigest .checkpointCandidate c.providerEvidence
        (E.integrity.candidateBytes c)
        { t with candidates := t.candidates ++ [⟨c.eventDigest, E.integrity.candidateRecordId c,
          c.checkpoint.checkpointId, E.integrity.checkpointAttestationId c.signedCheckpoint, c⟩] }
  | finalization (f : FinalizedIntegrityTransitionV1) :
      RecordInserted t f.eventDigest .finalization f.providerEvidence
        (E.integrity.finalizationBytes f)
        { t with finalizations := t.finalizations ++
          [⟨f.eventDigest, E.integrity.finalizationRecordId f, f⟩] }

/-- A phase record and its evidence were retained under a ceiling. -/
def PhaseCharged (cap : ℕ) (d : Digest) (phase : EvidencePhase) (bytes : ℕ) (t t' : E.Db) : Prop :=
  ∃ u blobs rejected, RecordInserted t d phase blobs bytes u ∧
    retainIntegrityEvidence E rejected cap u d phase blobs = .ok t'

theorem PhaseCharged.capacity {d : Digest} {phase : EvidencePhase} {bytes : ℕ}
    (h : PhaseCharged cap d phase bytes t t') : logicalEvidenceStorageUsed E t' ≤ cap := by
  obtain ⟨u, blobs, rejected, -, h⟩ := h
  exact retainIntegrityEvidence_capacity h

theorem writeAnchor_charged {l : IntegrityLineageV1} {a : AnchorStatementRecordV1}
    {b : E.Bundles} (h : writeAnchor E cap t l a b = .ok t') :
    unresolvedIntegrityDigest t = .ok (some a.eventDigest) ∧
      PhaseCharged cap a.eventDigest .anchorStatement (E.integrity.anchorBytes a) t t' := by
  unfold writeAnchor at h
  obtain ⟨hreq, h⟩ := unit_bind_eq_ok.mp h
  obtain ⟨prev, -, h⟩ := bind_eq_ok.mp h
  obtain ⟨-, h⟩ := unit_bind_eq_ok.mp h
  obtain ⟨x, -, h⟩ := bind_eq_ok.mp h
  obtain ⟨-, h⟩ := unit_bind_eq_ok.mp h
  obtain ⟨u, hu, h⟩ := bind_eq_ok.mp h
  obtain ⟨v, hev, h⟩ := bind_eq_ok.mp h
  obtain ⟨retained, -, h⟩ := bind_eq_ok.mp h
  obtain ⟨-, h⟩ := unit_bind_eq_ok.mp h
  obtain ⟨-, rfl⟩ := commit_eq_ok.mp h
  rw [mapError_eq_ok] at hu
  unfold insertAnchor at hu
  obtain ⟨-, hu⟩ := unit_bind_eq_ok.mp hu
  obtain rfl := Except.ok.inj hu
  exact ⟨(requirePhaseWrite_eq_ok hreq).2, _, _, _, .anchorStatement a, hev⟩

theorem writeCandidate_charged {l : IntegrityLineageV1} {a : AnchorStatementRecordV1}
    {c : CheckpointCandidateRecordV1} {b : E.Bundles}
    (h : writeCandidate E cap t l a c b = .ok t') :
    unresolvedIntegrityDigest t = .ok (some c.eventDigest) ∧
      PhaseCharged cap c.eventDigest .checkpointCandidate (E.integrity.candidateBytes c) t t' := by
  unfold writeCandidate at h
  obtain ⟨hreq, h⟩ := unit_bind_eq_ok.mp h
  obtain ⟨e, -, h⟩ := bind_eq_ok.mp h
  obtain ⟨-, h⟩ := unit_bind_eq_ok.mp h
  obtain ⟨prev, -, h⟩ := bind_eq_ok.mp h
  obtain ⟨y, -, h⟩ := bind_eq_ok.mp h
  obtain ⟨x, -, h⟩ := bind_eq_ok.mp h
  obtain ⟨-, h⟩ := unit_bind_eq_ok.mp h
  obtain ⟨u, hu, h⟩ := bind_eq_ok.mp h
  obtain ⟨v, hev, h⟩ := bind_eq_ok.mp h
  obtain ⟨retained, -, h⟩ := bind_eq_ok.mp h
  obtain ⟨-, h⟩ := unit_bind_eq_ok.mp h
  obtain ⟨-, rfl⟩ := commit_eq_ok.mp h
  rw [mapError_eq_ok] at hu
  unfold insertCandidate at hu
  obtain ⟨-, hu⟩ := unit_bind_eq_ok.mp hu
  obtain rfl := Except.ok.inj hu
  exact ⟨(requirePhaseWrite_eq_ok hreq).2, _, _, _, .checkpointCandidate c, hev⟩

theorem writeFinalization_charged {l : IntegrityLineageV1} {f : FinalizedIntegrityTransitionV1}
    {b : E.Bundles} (h : writeFinalization E cap t l f b = .ok t') :
    unresolvedIntegrityDigest t = .ok (some f.eventDigest) ∧
      PhaseCharged cap f.eventDigest .finalization (E.integrity.finalizationBytes f) t t' := by
  unfold writeFinalization at h
  obtain ⟨hreq, h⟩ := unit_bind_eq_ok.mp h
  obtain ⟨e, -, h⟩ := bind_eq_ok.mp h
  obtain ⟨prev, -, h⟩ := bind_eq_ok.mp h
  obtain ⟨y, -, h⟩ := bind_eq_ok.mp h
  obtain ⟨x, -, h⟩ := bind_eq_ok.mp h
  obtain ⟨-, h⟩ := unit_bind_eq_ok.mp h
  obtain ⟨u, hu, h⟩ := bind_eq_ok.mp h
  obtain ⟨v, hev, h⟩ := bind_eq_ok.mp h
  obtain ⟨retained, -, h⟩ := bind_eq_ok.mp h
  obtain ⟨l', -, h⟩ := orRefuse_bind_eq_ok.mp h
  obtain ⟨-, h⟩ := unit_bind_eq_ok.mp h
  obtain ⟨z, -, h⟩ := bind_eq_ok.mp h
  obtain ⟨-, rfl⟩ := commit_eq_ok.mp h
  rw [mapError_eq_ok] at hu
  unfold insertFinalization at hu
  obtain ⟨-, hu⟩ := unit_bind_eq_ok.mp hu
  obtain rfl := Except.ok.inj hu
  exact ⟨(requirePhaseWrite_eq_ok hreq).2, _, _, _, .finalization f, hev⟩

/-- What a modeled append was charged for, with its artifacts retained in the vault `v`. -/
structure PendingCharged (cap : ℕ) (r : AppendRequest E) (x : PendingIntegrityTransitionV1)
    (v : E.Vault) (t w : E.Db) : Prop where
  staging : retainStaging E cap t r = .ok { t with vault := v }
  reserve : logicalEvidenceStorageUsed E { t with vault := v } +
    integrityFinalityCapacityReserveBytesV1 ≤ cap
  finalized : ∀ q ∈ t.pending, t.IsFinalized q.eventDigest
  size : E.integrity.pendingBytes x ≤ maxIntegrityRecordBytesV1
  eventDigest : x.eventDigest = r.event.eventDigest
  evidence : retainIntegrityEvidence E appendRejected cap
    { t with vault := v, pending := t.pending ++ [.ofRecord E.integrity x] } x.eventDigest .pending
    x.providerEvidence = .ok w

/-- What a committed transaction was charged for. -/
inductive Charged (cap : ℕ) (t : E.Db) : E.Db → Prop
  /-- A legacy append, charged for its artifacts alone. -/
  | appended {u : E.Db} (r : AppendRequest E) (hp : t.profile = .legacy)
      (h : retainStaging E cap t r = .ok u) :
      Charged cap t { u with events := u.events ++ [.ofEvent r.event] }
  /-- A modeled append, whose pending record comes after its reserve. -/
  | appendedPending {w : E.Db} (r : AppendRequest E) (x : PendingIntegrityTransitionV1)
      (v : E.Vault) (h : PendingCharged cap r x v t w) :
      Charged cap t { w with events := w.events ++ [.ofEvent r.event] }
  | phase {t' : E.Db} {d : Digest} {phase : EvidencePhase} {bytes : ℕ}
      (hopen : unresolvedIntegrityDigest t = .ok (some d))
      (hsize : bytes ≤ maxIntegrityRecordBytesV1) (h : PhaseCharged cap d phase bytes t t') :
      Charged cap t t'
  | observed (o : ObservationRow)
      (h : logicalEvidenceStorageUsed E t + E.recovery.observationBytes o.record ≤ cap) :
      Charged cap t { t with observations := t.observations ++ [o] }
  | decided (d : DecisionRow)
      (h : logicalEvidenceStorageUsed E t + E.recovery.decisionBytes d.record ≤ cap) :
      Charged cap t { t with decisions := t.decisions ++ [d] }
  | recoveryEnrolled (r : RecoveryProfileRow) (hr : t.recoveryProfile = none)
      (h : logicalEvidenceStorageUsed E t + digestTextBytes + E.recovery.profileBytes r.profile ≤
        cap) :
      Charged cap t { t with recoveryProfile := some r }
  | modeledEnrolled (p : ModeledProfile) (hp : t.profile = .legacy)
      (h : logicalEvidenceStorageUsed E { t with profile := .modeled p } ≤ cap) :
      Charged cap t { t with profile := .modeled p }
  | qualifiedEnrolled (q : E.Qualified) (hempty : t.events = []) (hq : t.acceptanceProfile = none)
      (h : logicalEvidenceStorageUsed E t + E.qualifiedBytes q ≤ cap) :
      Charged cap t { t with acceptanceProfile := some q }
  | checkpointed (c : SignedCheckpoint) (hp : t.profile = .legacy) :
      Charged cap t { t with signedCheckpoints := t.signedCheckpoints ++ [c] }

theorem PendingCharged.charged {r : AppendRequest E} {x : PendingIntegrityTransitionV1}
    {v : E.Vault} {w : E.Db} (h : PendingCharged cap r x v t w) :
    PhaseCharged cap x.eventDigest .pending (E.integrity.pendingBytes x) { t with vault := v } w :=
  ⟨_, _, _, .pending x, h.evidence⟩

theorem snapshotIntegrityRecord_le {bytes : ℕ} (h : snapshotIntegrityRecord bytes = .ok ()) :
    bytes ≤ maxIntegrityRecordBytesV1 := by
  unfold snapshotIntegrityRecord at h
  rw [refuseIf_eq_ok] at h
  push Not at h
  exact h.2

theorem appendVerifiedEvent_pendingCharged {r : AppendRequest E} {published : Bool} {e : EventV1}
    {x : PendingIntegrityTransitionV1} {b : E.Bundles} (hx : r.dossier = some (x, b))
    (h : appendVerifiedEvent E cap t r = .ok (.wrote t' published, e)) :
    ∃ v w, PendingCharged cap r x v t w ∧
      t' = { w with events := w.events ++ [.ofEvent r.event] } := by
  obtain ⟨u, hu, hchecks, hrows, hcheck, hfk⟩ := appendVerifiedEvent_spec h
  obtain ⟨⟨rfl, rfl⟩, rfl⟩ : (t' = u ∧ published = true) ∧ e = r.event := by simpa using hu
  unfold appendRows at hrows
  obtain ⟨u, hu, hrest⟩ := bind_eq_ok.mp hrows
  obtain ⟨w, hw, hinsert⟩ := bind_eq_ok.mp hrest
  obtain ⟨v, rfl⟩ := retainStaging_spec hu
  rw [mapError_eq_ok] at hinsert
  unfold retainDossier at hw
  rw [hx] at hw
  unfold insertIntegrityPending at hw
  obtain ⟨hpre, hw⟩ := unit_bind_eq_ok.mp hw
  obtain ⟨hroom, hw⟩ := unit_bind_eq_ok.mp hw
  obtain ⟨y, hy, hw⟩ := bind_eq_ok.mp hw
  rw [mapError_eq_ok] at hy
  obtain ⟨rfl, -, hopen, -, -⟩ := insertPending_spec hy
  unfold admitPending at hpre
  obtain ⟨hsize, hpre⟩ := unit_bind_eq_ok.mp hpre
  obtain ⟨hbinds, -⟩ := unit_bind_eq_ok.mp hpre
  unfold reserveIntegrityFinalityCapacity at hroom
  rw [refuseIf_eq_ok] at hroom hbinds
  push Not at hroom hbinds
  exact ⟨v, w, ⟨hu, hroom, hopen, snapshotIntegrityRecord_le hsize, hbinds.1, hw⟩,
    (insertEvent_spec hinsert).eq⟩

theorem appendVerifiedEvent_charged {r : AppendRequest E} {published : Bool} {e : EventV1}
    (h : appendVerifiedEvent E cap t r = .ok (.wrote t' published, e)) : Charged cap t t' := by
  cases hx : r.dossier with
  | none =>
    obtain ⟨u, hu, hchecks, hrows, hcheck, hfk⟩ := appendVerifiedEvent_spec h
    obtain ⟨⟨rfl, rfl⟩, rfl⟩ : (t' = u ∧ published = true) ∧ e = r.event := by simpa using hu
    unfold appendRows at hrows
    obtain ⟨u, hu, hrest⟩ := bind_eq_ok.mp hrows
    obtain ⟨w, hw, hinsert⟩ := bind_eq_ok.mp hrest
    rw [mapError_eq_ok] at hinsert
    unfold retainDossier at hw
    rw [hx] at hw
    obtain rfl := Except.ok.inj hw
    rw [(insertEvent_spec hinsert).eq]
    exact .appended r ((admitAppend_dossier hchecks).mpr hx) hu
  | some x =>
    obtain ⟨v, w, hc, rfl⟩ := appendVerifiedEvent_pendingCharged hx h
    exact .appendedPending r x.1 v hc

theorem enrollBlockedFinalityRecovery_charged {x : BlockedFinalityRecoveryProfileV1}
    {published : Bool} {i : Digest}
    (h : enrollBlockedFinalityRecovery E cap t x = .ok (.wrote t' published, i)) :
    Charged cap t t' := by
  have hw := enrollBlockedFinalityRecovery_wrote h
  unfold enrollBlockedFinalityRecovery at h
  obtain ⟨-, hrow⟩ := unit_bind_eq_ok.mp h
  rw [hw.first] at hrow
  obtain ⟨hroom, -⟩ := unit_bind_eq_ok.mp hrow
  rw [refuseIf_eq_ok, Nat.not_lt] at hroom
  rw [hw.eq]
  exact .recoveryEnrolled _ hw.first hroom

theorem retainBlockedFinalityObservation_charged {o y : BlockedFinalityObservationV1}
    {published : Bool}
    (h : retainBlockedFinalityObservation E cap t o = .ok (.wrote t' published, y)) :
    Charged cap t t' := by
  unfold retainBlockedFinalityObservation at h
  obtain ⟨profile, -, h⟩ := bind_eq_ok.mp h
  cases hat : t.attempt o.eventDigest o.attemptOrdinal with
  | some r =>
    rw [hat] at h
    obtain ⟨-, h⟩ := unit_bind_eq_ok.mp h
    simp [pure, Except.pure] at h
  | none =>
    rw [hat] at h
    obtain ⟨ol, -, h⟩ := bind_eq_ok.mp h
    obtain ⟨l, -, h⟩ := orRefuse_bind_eq_ok.mp h
    obtain ⟨-, h⟩ := unit_bind_eq_ok.mp h
    obtain ⟨-, h⟩ := unit_bind_eq_ok.mp h
    obtain ⟨hroom, h⟩ := unit_bind_eq_ok.mp h
    obtain ⟨u, hu, hlast⟩ := bind_eq_ok.mp h
    obtain ⟨w, hw, hend⟩ := bind_eq_ok.mp hlast
    obtain ⟨-, heq⟩ := commit_eq_ok.mp hw
    obtain ⟨⟨rfl, -⟩, -⟩ : (w = t' ∧ false = published) ∧ o = y := by
      simpa [pure, Except.pure] using hend
    rw [mapError_eq_ok] at hu
    unfold insertObservation at hu
    obtain ⟨-, hu⟩ := unit_bind_eq_ok.mp hu
    obtain ⟨-, hu⟩ := unit_bind_eq_ok.mp hu
    obtain ⟨-, hu⟩ := unit_bind_eq_ok.mp hu
    rw [refuseIf_eq_ok, Nat.not_lt] at hroom
    rw [heq, ← Except.ok.inj hu]
    exact .observed _ hroom

theorem retainGovernedRecoveryDecision_charged {signed : SignedGovernedRecoveryDecisionV1}
    {published : Bool} {i : Digest}
    (h : retainGovernedRecoveryDecision E cap t signed = .ok (.wrote t' published, i)) :
    Charged cap t t' := by
  unfold retainGovernedRecoveryDecision at h
  obtain ⟨profile, -, h⟩ := bind_eq_ok.mp h
  obtain ⟨d, -, h⟩ := bind_eq_ok.mp h
  cases hat : findBy DecisionRow.decisionId d.decisionId t.decisions with
  | some r =>
    rw [hat] at h
    obtain ⟨-, h⟩ := unit_bind_eq_ok.mp h
    simp [pure, Except.pure] at h
  | none =>
    rw [hat] at h
    obtain ⟨os, -, h⟩ := bind_eq_ok.mp h
    obtain ⟨ol, -, h⟩ := bind_eq_ok.mp h
    obtain ⟨l, -, h⟩ := orRefuse_bind_eq_ok.mp h
    obtain ⟨-, h⟩ := unit_bind_eq_ok.mp h
    obtain ⟨z, -, h⟩ := bind_eq_ok.mp h
    obtain ⟨hroom, h⟩ := unit_bind_eq_ok.mp h
    obtain ⟨u, hu, hlast⟩ := bind_eq_ok.mp h
    obtain ⟨w, hw, hend⟩ := bind_eq_ok.mp hlast
    obtain ⟨-, heq⟩ := commit_eq_ok.mp hw
    obtain ⟨⟨rfl, -⟩, -⟩ : (w = t' ∧ false = published) ∧ d.decisionId = i := by
      simpa [pure, Except.pure] using hend
    rw [mapError_eq_ok] at hu
    unfold insertDecision at hu
    obtain ⟨-, hu⟩ := unit_bind_eq_ok.mp hu
    obtain ⟨-, hu⟩ := unit_bind_eq_ok.mp hu
    obtain ⟨-, hu⟩ := unit_bind_eq_ok.mp hu
    rw [refuseIf_eq_ok, Nat.not_lt] at hroom
    rw [heq, ← Except.ok.inj hu]
    exact .decided _ hroom

theorem enrollModeledIntegrity_charged {p : ModeledProfile} {published : Bool} {u : Unit}
    (h : enrollModeledIntegrity E cap t p = .ok (.wrote t' published, u)) : Charged cap t t' := by
  have hw := enrollModeledIntegrity_wrote h
  unfold enrollModeledIntegrity at h
  rw [if_neg (by rw [hw.legacy]; simp)] at h
  obtain ⟨-, h⟩ := unit_bind_eq_ok.mp h
  obtain ⟨-, h⟩ := unit_bind_eq_ok.mp h
  obtain ⟨-, h⟩ := unit_bind_eq_ok.mp h
  obtain ⟨v, -, h⟩ := bind_eq_ok.mp h
  obtain ⟨hroom, hlast⟩ := unit_bind_eq_ok.mp h
  obtain ⟨w, hcommit, hend⟩ := bind_eq_ok.mp hlast
  obtain ⟨-, heq⟩ := commit_eq_ok.mp hcommit
  obtain ⟨rfl, -⟩ : w = t' ∧ true = published := by simpa [pure, Except.pure] using hend
  unfold requireIntegrityEnrollmentCapacity at hroom
  rw [refuseIf_eq_ok, Nat.not_lt, ← heq, hw.eq] at hroom
  rw [hw.eq]
  exact .modeledEnrolled p hw.legacy (by omega)

theorem enrollQualifiedAcceptance_charged {q : E.Qualified} {published : Bool}
    {m : AcceptanceMode}
    (h : enrollQualifiedAcceptance E cap t q = .ok (.wrote t' published, m)) :
    Charged cap t t' := by
  have hw := enrollQualifiedAcceptance_wrote h
  unfold enrollQualifiedAcceptance at h
  cases hr : t.acceptanceProfile with
  | some r =>
    rw [hr] at h
    obtain ⟨-, h⟩ := unit_bind_eq_ok.mp h
    simp [pure, Except.pure] at h
  | none =>
    rw [hr] at h
    obtain ⟨-, h⟩ := unit_bind_eq_ok.mp h
    obtain ⟨hroom, -⟩ := unit_bind_eq_ok.mp h
    rw [refuseIf_eq_ok, Nat.not_lt] at hroom
    rw [hw.eq]
    exact .qualifiedEnrolled q hw.empty hr hroom

/-- Every committed transaction was charged. -/
theorem Txn.body_charged {ρ : Type} {x : Txn E ρ} {published : Bool} {y : ρ}
    (hpre : x.precheck E = .ok ()) (h : x.body E cap t = .ok (.wrote t' published, y)) :
    Charged cap t t' := by
  cases x with
  | appendVerifiedEvent r => exact appendVerifiedEvent_charged h
  | retainIntegrityAnchorStatement a b =>
    replace h : Etzio.retainIntegrityAnchorStatement E cap t a b = _ := h
    unfold Etzio.retainIntegrityAnchorStatement at h
    obtain ⟨ol, -, h⟩ := bind_eq_ok.mp h
    obtain ⟨l, -, h⟩ := orRefuse_bind_eq_ok.mp h
    split at h
    · exact absurd (resubmitPhase_unchanged h).2 (by simp)
    · obtain ⟨w, hw, h⟩ := bind_eq_ok.mp h
      obtain ⟨⟨rfl, -⟩, -⟩ : (w = t' ∧ true = published) ∧ a = y := by
        simpa [pure, Except.pure] using h
      obtain ⟨hopen, hc⟩ := writeAnchor_charged hw
      exact .phase hopen (snapshotIntegrityRecord_le hpre) hc
  | retainIntegrityCheckpointCandidate c b =>
    replace h : Etzio.retainIntegrityCheckpointCandidate E cap t c b = _ := h
    unfold Etzio.retainIntegrityCheckpointCandidate at h
    obtain ⟨-, h⟩ := unit_bind_eq_ok.mp h
    obtain ⟨ol, -, h⟩ := bind_eq_ok.mp h
    obtain ⟨l, -, h⟩ := orRefuse_bind_eq_ok.mp h
    obtain ⟨a, -, h⟩ := orRefuse_bind_eq_ok.mp h
    split at h
    · exact absurd (resubmitPhase_unchanged h).2 (by simp)
    · obtain ⟨w, hw, h⟩ := bind_eq_ok.mp h
      obtain ⟨⟨rfl, -⟩, -⟩ : (w = t' ∧ true = published) ∧ c = y := by
        simpa [pure, Except.pure] using h
      obtain ⟨hopen, hc⟩ := writeCandidate_charged hw
      exact .phase hopen (snapshotIntegrityRecord_le hpre) hc
  | finalizeIntegrityTransition f b =>
    replace h : Etzio.finalizeIntegrityTransition E cap t f b = _ := h
    unfold Etzio.finalizeIntegrityTransition at h
    obtain ⟨-, h⟩ := unit_bind_eq_ok.mp h
    obtain ⟨u, -, h⟩ := bind_eq_ok.mp h
    obtain ⟨ol, -, h⟩ := bind_eq_ok.mp h
    obtain ⟨l, -, h⟩ := orRefuse_bind_eq_ok.mp h
    obtain ⟨-, h⟩ := unit_bind_eq_ok.mp h
    split at h
    · exact absurd (resubmitPhase_unchanged h).2 (by simp)
    · obtain ⟨w, hw, h⟩ := bind_eq_ok.mp h
      obtain ⟨⟨rfl, -⟩, -⟩ : (w = t' ∧ true = published) ∧ f = y := by
        simpa [pure, Except.pure] using h
      obtain ⟨hopen, hc⟩ := writeFinalization_charged hw
      exact .phase hopen (snapshotIntegrityRecord_le hpre) hc
  | enrollBlockedFinalityRecovery p => exact enrollBlockedFinalityRecovery_charged h
  | retainBlockedFinalityObservation o => exact retainBlockedFinalityObservation_charged h
  | retainGovernedRecoveryDecision d => exact retainGovernedRecoveryDecision_charged h
  | enrollModeledIntegrity p => exact enrollModeledIntegrity_charged h
  | enrollQualifiedAcceptance q => exact enrollQualifiedAcceptance_charged h
  | storeCheckpoint c =>
    have hw := storeCheckpoint_wrote h
    rw [hw.eq]
    exact .checkpointed c hw.legacy
  | load m => simpa using (readOnly_unchanged h).2
  | loadIntegrityEvent d => simpa using (readOnly_unchanged h).2
  | loadIntegrityLineage d => simpa using (readOnly_unchanged h).2
  | loadIntegrityPredecessorLineages d => simpa using (readOnly_unchanged h).2
  | loadLatestFinalizedIntegrityLineages m => simpa using (readOnly_unchanged h).2
  | loadUnresolvedIntegrityTransition => simpa using (readOnly_unchanged h).2
  | loadBlockedFinalityObservations d => simpa using (readOnly_unchanged h).2
  | loadGovernedRecoveryDecision i => simpa using (readOnly_unchanged h).2
  | instanceIsSealed => simpa using (readOnly_unchanged h).2
  | resolveAcceptanceMode => simpa using (readOnly_unchanged h).2

end Charges

/-! ## Runs -/

section Runs

variable {s s' : Sys E} {ρ : Type} {i : ℕ} {x : Txn E ρ} {r : Except StoreError ρ}

theorem Sys.rolledBack_ceiling (s : Sys E) (i n j : ℕ) :
    ((s.rolledBack i n).conns j).maxVaultBytes = (s.conns j).maxVaultBytes := by
  by_cases hj : j = i
  · simp [Sys.rolledBack, hj]
  · rw [Sys.rolledBack_of_ne s n hj]

/-- No step changes the ceiling of a connection. -/
theorem Step.ceiling (h : Step s i x r s') (j : ℕ) :
    (s'.conns j).maxVaultBytes = (s.conns j).maxVaultBytes := by
  cases h with
  | invalid h => rfl
  | refused h hx hn => exact s.rolledBack_ceiling i _ j
  | interrupted hn => exact s.rolledBack_ceiling i _ j
  | unchanged h hx =>
    by_cases hj : j = i
    · rw [hj, Sys.validated_self]
    · rw [Sys.validated_of_ne s hj]
  | wrote h hx hc => exact hc.ceiling j

theorem Reaches.ceiling (h : Reaches s s') (j : ℕ) :
    (s'.conns j).maxVaultBytes = (s.conns j).maxVaultBytes := by
  induction h with
  | refl => rfl
  | step _ hs ih => exact (hs.ceiling j).trans ih

/-- A step leaves the tables alone or was charged under the ceiling of its connection. -/
theorem Step.charged (h : Step s i x r s') :
    s'.tables = s.tables ∨ Charged (s.conns i).maxVaultBytes s.tables s'.tables := by
  cases h with
  | invalid h => exact .inl rfl
  | refused h hx hn => exact .inl rfl
  | interrupted hn => exact .inl rfl
  | unchanged h hx => exact .inl rfl
  | wrote h hx hc => exact .inr (Txn.body_charged h (transact_eq_ok.mp hx).2)

end Runs

section Ceiling

variable {W : VaultEnv} {t t' : W.env.Db}

/-- The artifacts of an append stay within the ceiling. -/
theorem retainStaging_used_le {r : AppendRequest W.env}
    (hle : t.vault.usedBytes ≤ cap) (h : retainStaging W.env cap t r = .ok t') :
    t'.vault.usedBytes ≤ cap := by
  unfold retainStaging at h
  split at h
  · obtain rfl := Except.ok.inj h
    exact hle
  · obtain ⟨v, hv, h⟩ := bind_eq_ok.mp h
    rw [← Except.ok.inj h]
    exact retainEventArtifacts_used_le hle hv

/-- A legacy store has nothing but its vault. -/
theorem LegacyAccepted.logical_eq (h : LegacyAccepted t) (hp : t.profile = .legacy)
    (v : EvidenceVault) :
    logicalEvidenceStorageUsed W.env { t with vault := v } = v.usedBytes := by
  simp [logicalEvidenceStorageUsed, h.acceptanceProfile, h.recoveryProfile, h.pending, h.anchors,
    h.candidates, h.finalizations, h.artifacts, h.observations, h.decisions, hp]
  rfl

/-- Every charge keeps an accepted store within its ceiling. -/
theorem Charged.capacity (h : Charged cap t t') (hacc : Accepted t)
    (hle : logicalEvidenceStorageUsed W.env t ≤ cap) :
    logicalEvidenceStorageUsed W.env t' ≤ cap := by
  cases h with
  | @appended u r hp h =>
    have hvault := retainStaging_used_le ((vaultUsedBytes_le t).trans hle) h
    obtain ⟨v, rfl⟩ := retainStaging_spec h
    have hl := (accepted_legacy hp).mp hacc
    exact (hl.logical_eq hp v).le.trans hvault
  | appendedPending r x v h => exact h.charged.capacity
  | phase hopen hsize h => exact h.capacity
  | observed o h =>
    simp only [logicalEvidenceStorageUsed, List.map_append, List.sum_append, List.map_singleton,
      List.sum_singleton] at h ⊢
    omega
  | decided d h =>
    simp only [logicalEvidenceStorageUsed, List.map_append, List.sum_append, List.map_singleton,
      List.sum_singleton] at h ⊢
    omega
  | recoveryEnrolled r hr h =>
    simp only [logicalEvidenceStorageUsed, hr, Option.elim] at h ⊢
    omega
  | modeledEnrolled p hp h => exact h
  | qualifiedEnrolled q hempty hq h =>
    simp only [logicalEvidenceStorageUsed, hq, Option.elim] at h ⊢
    omega
  | checkpointed c hp => exact hle

/-! ### What is counted -/

/-- Every piece of provider evidence is stored with its size. -/
def SizedEvidence (t : E.Db) : Prop := ∀ a ∈ t.artifacts, a.byteSize = a.content.length

theorem retainArtifacts_sized {t t' : E.Db} {l : List (Digest × List UInt8)}
    (hsized : SizedEvidence t) (h : l.foldlM (retainArtifact E) t = .ok t') : SizedEvidence t' := by
  induction l generalizing t with
  | nil =>
    obtain rfl : t = t' := Except.ok.inj h
    exact hsized
  | cons x l ih =>
    obtain ⟨u, hu, h⟩ := foldlM_cons_eq_ok.mp h
    refine ih ?_ h
    unfold retainArtifact at hu
    obtain ⟨-, hu⟩ := unit_bind_eq_ok.mp hu
    obtain rfl := Except.ok.inj hu
    unfold insertArtifact
    split_ifs
    · exact hsized
    · intro a ha
      rcases List.mem_append.mp ha with ha | ha
      · exact hsized a ha
      · rw [List.mem_singleton.mp ha]

theorem PhaseCharged.sized {t t' : E.Db} {d : Digest} {phase : EvidencePhase} {bytes : ℕ}
    (h : PhaseCharged cap d phase bytes t t') (hsized : SizedEvidence t) : SizedEvidence t' := by
  obtain ⟨u, blobs, rejected, hu, h⟩ := h
  replace hsized : SizedEvidence u := by
    cases hu <;> exact hsized
  unfold retainIntegrityEvidence at h
  obtain ⟨-, h⟩ := unit_bind_eq_ok.mp h
  obtain ⟨-, h⟩ := unit_bind_eq_ok.mp h
  obtain ⟨-, h⟩ := unit_bind_eq_ok.mp h
  obtain ⟨-, h⟩ := unit_bind_eq_ok.mp h
  obtain ⟨-, h⟩ := unit_bind_eq_ok.mp h
  obtain ⟨v, hv, h⟩ := bind_eq_ok.mp h
  obtain ⟨w, hw, h⟩ := bind_eq_ok.mp h
  obtain ⟨-, h⟩ := unit_bind_eq_ok.mp h
  obtain rfl := Except.ok.inj h
  obtain ⟨ms, rfl, -⟩ := retainSlots_spec hw
  have hretained : SizedEvidence v := retainArtifacts_sized hsized hv
  exact hretained

theorem Charged.sized {t t' : E.Db} (h : Charged cap t t') (hsized : SizedEvidence t) :
    SizedEvidence t' := by
  cases h with
  | appended r hp h =>
    obtain ⟨v, rfl⟩ := retainStaging_spec h
    exact hsized
  | appendedPending r x v h => exact h.charged.sized hsized
  | phase hopen hsize h => exact h.sized hsized
  | _ => exact hsized

theorem Reaches.sized {s s' : Sys E} (hr : Reaches s s') (hsized : SizedEvidence s.tables) :
    SizedEvidence s'.tables := by
  induction hr with
  | refl => exact hsized
  | step hr hs ih =>
    rcases hs.charged with heq | hc
    · rwa [heq]
    · exact hc.sized ih

/-- A store opened under a ceiling stays within it, and can be opened again. -/
theorem logical_storage_bounded (W : VaultEnv) {s₀ s : Sys W.env} {cap : ℕ}
    (hk : s₀.tables.Keys) (ho : s₀.Opened) (hopen : openStore W.env cap s₀.tables = .ok ())
    (hcap : ∀ i, (s₀.conns i).maxVaultBytes = cap) (hr : Reaches s₀ s) :
    logicalEvidenceStorageUsed W.env s.tables ≤ cap ∧ openStore W.env cap s.tables = .ok () := by
  have hstart : Accepted s₀.tables ∧ logicalEvidenceStorageUsed W.env s₀.tables ≤ cap := by
    obtain ⟨-, hrest⟩ := unit_bind_eq_ok.mp hopen
    obtain ⟨hacc, hroom⟩ := unit_bind_eq_ok.mp hrest
    exact ⟨hacc, by simpa using hroom⟩
  have hinv : Accepted s.tables ∧ logicalEvidenceStorageUsed W.env s.tables ≤ cap := by
    induction hr with
    | refl => exact hstart
    | @step s' s'' σ i y z hr hs ih =>
      have hsound := (CacheSound.of_opened hk ho).reaches hr.foreignReaches
      have hacc : Accepted s''.tables := by
        rcases hs.written hsound with heq | ⟨reply, published, -, hacc, hx⟩
        · rw [heq]
          exact ih.1
        · exact (Txn.body_accepted hsound.keys hacc hx).2
      refine ⟨hacc, ?_⟩
      rcases hs.charged with heq | hc
      · rw [heq]
        exact ih.2
      · rw [hr.ceiling i, hcap i] at hc
        exact hc.capacity ih.1 ih.2
  exact ⟨hinv.2, (openStore_eq hinv.2).trans hinv.1⟩

/-- The sample store with a vault. -/
def sampleVaultEnv : VaultEnv where
  events := sampleEventPrimitives
  integrity := sampleIntegrity
  recovery := sampleEnv.recovery
  digestBytesV1 _ content := BitVec.ofNat 256 (content.map UInt8.toNat).sum
  Qualified := Unit
  Bundles := Unit
  Reconstructed := Unit
  decideQualified := inferInstance
  validateReceiptAdmission _ _ _ _ := .ok ()
  qualifiedScopes _ := []
  qualifiedBytes _ := 1
  reconstructQualifiedLineage _ _ _ := .ok ()
  validateQualifiedTransients _ _ _ := .ok ()
  modeledProfileBytes _ := 1

/-- A staging store with the evidence of the sample grant. -/
def sampleStaging : StagingStore := fun i _ =>
  if i.digest = 103 then .ok [100, 2, 1] else .error "evidence artifact is absent"

def sampleVaultOpened : Sys sampleVaultEnv.env where
  tables := sampleVaultEnv.env.freshDb
  conns _ := ⟨2 ^ 30, ⟨0, 0⟩, none⟩

/-- The store is enrolled and its first event is appended and anchored. -/
def sampleVaultAnchored : Sys sampleVaultEnv.env :=
  let s := (sampleVaultOpened.perform 0 (.enrollModeledIntegrity sampleProfile)).2
  let s := (s.perform 1 (.appendVerifiedEvent
    ⟨sampleFirst, genesisDigest, some sampleStaging, some (samplePending 0 sampleFirst, ())⟩)).2
  (s.perform 0 (.retainIntegrityAnchorStatement (sampleAnchor 0 sampleFirst) ())).2

/-- A store with an event, its artifact and an anchor statement. -/
theorem logical_storage_bounded_sample :
    sampleVaultAnchored.tables.vault.usedBytes = 3 ∧ sampleVaultAnchored.tables.anchors.length = 1 ∧
      logicalEvidenceStorageUsed sampleVaultEnv.env sampleVaultAnchored.tables ≤ 2 ^ 30 ∧
      openStore sampleVaultEnv.env (2 ^ 30) sampleVaultAnchored.tables = .ok () := by
  have hr : Reaches sampleVaultOpened sampleVaultAnchored :=
    ((Reaches.refl.step (Sys.perform_step _ _ _)).step (Sys.perform_step _ _ _)).step
      (Sys.perform_step _ _ _)
  exact ⟨by decide +kernel, by decide +kernel,
    logical_storage_bounded sampleVaultEnv (Env.freshDb_keys _) (fun _ => rfl) (by rfl)
      (fun _ => rfl) hr⟩

end Ceiling

end Etzio
