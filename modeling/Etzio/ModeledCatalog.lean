import Etzio.StoreSystem

/-!
# The modeled catalog

The catalog of `RepositoryOwnedDeterministicModeledIntegrityServiceV1` : the current checkpoint,
the current checkpoint of each mission and the signed bytes of every published checkpoint. Two
operations write it under one lock : `publishCheckpoint` compares and sets, `primeCatalog` sets
heads that a fresh process has not seen yet. An operation that raises keeps what it wrote before.

* `Step` : what any call does to the catalog. A head is set once and then replaced by its direct
  successor alone, and the bytes of a checkpoint never change (`apply_step`, `run_wires`).
* `publish_published` : a published checkpoint is published again without effect.
* `atomic_iff` : a call that raises leaves the catalog as it was exactly when it is `Guarded`.
  Publication always is, and priming is not when its mission is refused after its global
  predecessor was set.
* `catalog_laws` : the laws of any sequence of calls, with the calls that break atomicity.
-/

namespace Etzio

/-! ## The service -/

/-- What the catalog takes from its service. -/
structure CatalogService where
  primitives : IntegrityPrimitives
  /-- `signed_checkpoint.to_bytes()`. -/
  signedWire : SignedHeadCheckpointV1 → List UInt8
  serviceInstanceId : String
  environmentId : String

/-- `IntegrityTransitionError` and `IntegrityFinalityBlockedError`. -/
inductive CatalogError
  | rejected (reasonCode message : String)
  | blocked (reasonCode message : String)
  deriving DecidableEq, Repr

/-- `_global_checkpoint`, `_mission_checkpoints` and `_published_by_id`. -/
@[ext] structure Catalog where
  globalCheckpoint : Option CheckpointCandidateRecordV1
  missionCheckpoints : Digest → Option CheckpointCandidateRecordV1
  publishedById : Digest → Option (List UInt8)

/-- The catalog of a new process. -/
def Catalog.empty : Catalog := ⟨none, fun _ => none, fun _ => none⟩

/-- How a call ends, and the catalog it leaves behind. -/
abbrev CatalogOutcome : Type := Except CatalogError Unit × Catalog

/-- A call that did not raise goes on. -/
def CatalogOutcome.andThen (x : CatalogOutcome) (f : Catalog → CatalogOutcome) : CatalogOutcome :=
  match x with
  | (.ok (), s) => f s
  | (.error e, s) => (.error e, s)

/-! ## The operations -/

namespace Catalog

variable (S : CatalogService) (s : Catalog)

/-- The identity of the checkpoint has other bytes. -/
def WireConflict (c : CheckpointCandidateRecordV1) : Prop :=
  ∃ wire ∈ s.publishedById c.checkpoint.checkpointId, wire ≠ S.signedWire c.signedCheckpoint

instance (c : CheckpointCandidateRecordV1) : Decidable (WireConflict S s c) :=
  inferInstanceAs (Decidable (∃ _ ∈ (_ : Option _), _))

/-- `current` is the next checkpoint of the instance after `c`. -/
def DirectSuccessor (current c : CheckpointCandidateRecordV1) : Prop :=
  current.checkpoint.instanceSequence = c.checkpoint.instanceSequence + 1 ∧
    current.checkpoint.previousCheckpoint.checkpointId = c.checkpoint.checkpointId

instance (current c : CheckpointCandidateRecordV1) : Decidable (DirectSuccessor current c) :=
  inferInstanceAs (Decidable (_ ∧ _))

/-- `current` is the next checkpoint of the mission after `c`. -/
def MissionSuccessor (current c : CheckpointCandidateRecordV1) : Prop :=
  current.checkpoint.eventSeq = c.checkpoint.eventSeq + 1 ∧
    current.checkpoint.previousMissionCheckpoint.checkpointId = c.checkpoint.checkpointId

instance (current c : CheckpointCandidateRecordV1) : Decidable (MissionSuccessor current c) :=
  inferInstanceAs (Decidable (_ ∧ _))

/-- Record the bytes of a checkpoint. -/
def withWire (c : CheckpointCandidateRecordV1) : Catalog :=
  { s with
    publishedById := Function.update s.publishedById c.checkpoint.checkpointId
      (some (S.signedWire c.signedCheckpoint)) }

/-- `_retain_published_checkpoint_wire`. -/
def retainPublishedCheckpointWire (c : CheckpointCandidateRecordV1) : CatalogOutcome :=
  if WireConflict S s c then
    (.error (.blocked "modeled_checkpoint_identity_conflict"
      "one checkpoint identity maps to different signed bytes"), s)
  else
    (.ok (), s.withWire S c)

/-- The global head is neither the predecessor nor its direct successor. -/
def GlobalConflict (c : CheckpointCandidateRecordV1) : Prop :=
  ∃ current ∈ s.globalCheckpoint,
    S.primitives.candidateRecordId current ≠ S.primitives.candidateRecordId c ∧
      ¬DirectSuccessor current c

instance (c : CheckpointCandidateRecordV1) : Decidable (GlobalConflict S s c) :=
  inferInstanceAs (Decidable (∃ _ ∈ (_ : Option _), _))

/-- The head of the mission is neither the predecessor nor its direct successor. -/
def MissionConflict (c : CheckpointCandidateRecordV1) : Prop :=
  ∃ current ∈ s.missionCheckpoints c.checkpoint.missionId,
    S.primitives.candidateRecordId current ≠ S.primitives.candidateRecordId c ∧
      ¬MissionSuccessor current c

instance (c : CheckpointCandidateRecordV1) : Decidable (MissionConflict S s c) :=
  inferInstanceAs (Decidable (∃ _ ∈ (_ : Option _), _))

/-- Set the global head if there is none. -/
def withGlobal (c : CheckpointCandidateRecordV1) : Catalog :=
  { s with globalCheckpoint := s.globalCheckpoint.or (some c) }

/-- Set the head of a mission if there is none. -/
def withMission (c : CheckpointCandidateRecordV1) : Catalog :=
  { s with
    missionCheckpoints := Function.update s.missionCheckpoints c.checkpoint.missionId
      ((s.missionCheckpoints c.checkpoint.missionId).or (some c)) }

/-- Set both heads. -/
def withHeads (c : CheckpointCandidateRecordV1) : Catalog :=
  { s with
    globalCheckpoint := some c
    missionCheckpoints := Function.update s.missionCheckpoints c.checkpoint.missionId (some c) }

/-- Rehydrate the global head. -/
def primeGlobal (c : CheckpointCandidateRecordV1) : CatalogOutcome :=
  if GlobalConflict S s c then
    (.error (.blocked "modeled_catalog_global_conflict"
      "modeled catalog is neither at the retained global predecessor nor its direct successor"), s)
  else
    retainPublishedCheckpointWire S (s.withGlobal c) c

/-- Rehydrate the head of a mission. -/
def primeMission (c : CheckpointCandidateRecordV1) : CatalogOutcome :=
  if MissionConflict S s c then
    (.error (.blocked "modeled_catalog_mission_conflict"
      "modeled catalog is neither at the retained mission predecessor nor its direct successor"),
      s)
  else
    retainPublishedCheckpointWire S (s.withMission c) c

/-- The step of priming for a predecessor, if there is one. -/
def primeWith (prime : Catalog → CheckpointCandidateRecordV1 → CatalogOutcome)
    (c : Option CheckpointCandidateRecordV1) (s : Catalog) : CatalogOutcome :=
  c.elim (.ok (), s) (prime s)

/-- A predecessor that is not finalized. -/
def Unfinalized (previous : Option IntegrityLineageV1) : Prop :=
  ∃ l ∈ previous, l.checkpointCandidate = none ∨ l.finalization = none

instance (previous : Option IntegrityLineageV1) : Decidable (Unfinalized previous) :=
  inferInstanceAs (Decidable (∃ _ ∈ (_ : Option _), _))

/-- `prime_catalog`. -/
def primeCatalog (previousGlobal previousMission : Option IntegrityLineageV1) : CatalogOutcome :=
  if Unfinalized previousGlobal then
    (.error (.rejected "unfinalized_integrity_predecessor"
      "modeled catalog can prime only from a finalized global predecessor"), s)
  else if Unfinalized previousMission then
    (.error (.rejected "unfinalized_integrity_predecessor"
      "modeled catalog can prime only from a finalized mission predecessor"), s)
  else
    (primeWith (primeGlobal S) (previousGlobal.bind IntegrityLineageV1.checkpointCandidate)
      s).andThen
      (primeWith (primeMission S) (previousMission.bind IntegrityLineageV1.checkpointCandidate))

/-- The candidate extends the global head, or starts the instance. -/
def GlobalOk (c : CheckpointCandidateRecordV1) : Prop :=
  match s.globalCheckpoint with
  | none =>
    c.checkpoint.instanceSequence = 0 ∧ c.checkpoint.previousCheckpoint.checkpointId =
      S.primitives.headCheckpointGenesisId S.serviceInstanceId S.environmentId
  | some previous => DirectSuccessor c previous

instance (c : CheckpointCandidateRecordV1) : Decidable (GlobalOk S s c) := by
  unfold GlobalOk
  split <;> infer_instance

/-- The candidate extends the head of its mission, or starts the mission. -/
def MissionOk (c : CheckpointCandidateRecordV1) : Prop :=
  match s.missionCheckpoints c.checkpoint.missionId with
  | none =>
    c.checkpoint.eventSeq = 0 ∧ c.checkpoint.previousMissionCheckpoint.checkpointId =
      S.primitives.missionCheckpointGenesisId S.serviceInstanceId S.environmentId
        c.checkpoint.missionId
  | some previous => MissionSuccessor c previous

instance (c : CheckpointCandidateRecordV1) : Decidable (MissionOk S s c) := by
  unfold MissionOk
  split <;> infer_instance

/-- `publish_checkpoint`. A value of another type than a candidate is `none`. -/
def publishCheckpoint (candidate : Option CheckpointCandidateRecordV1) : CatalogOutcome :=
  match candidate with
  | none =>
    (.error (.rejected "invalid_checkpoint_candidate"
      "modeled publication requires an exact checkpoint candidate"), s)
  | some c =>
    match s.publishedById c.checkpoint.checkpointId with
    | some wire =>
      if wire ≠ S.signedWire c.signedCheckpoint then
        (.error (.blocked "modeled_checkpoint_identity_conflict"
          "one checkpoint identity maps to different signed bytes"), s)
      else (.ok (), s)
    | none =>
      if ¬(GlobalOk S s c ∧ MissionOk S s c) then
        (.error (.blocked "modeled_catalog_compare_and_set_failed"
          "checkpoint does not extend the modeled catalog heads"), s)
      else
        (retainPublishedCheckpointWire S s c).andThen fun s => (.ok (), s.withHeads c)

end Catalog

/-! ## Calls -/

/-- A call of the catalog. -/
inductive CatalogCall
  | prime (previousGlobal previousMission : Option IntegrityLineageV1)
  | publish (candidate : Option CheckpointCandidateRecordV1)

/-- One call under the lock. -/
def CatalogCall.apply (S : CatalogService) (s : Catalog) : CatalogCall → CatalogOutcome
  | .prime previousGlobal previousMission => s.primeCatalog S previousGlobal previousMission
  | .publish candidate => s.publishCheckpoint S candidate

/-- The catalog after some calls, in the order of the lock. -/
def CatalogCall.run (S : CatalogService) (s : Catalog) (calls : List CatalogCall) : Catalog :=
  calls.foldl (fun s call => (call.apply S s).2) s

/-! ## What a call does to the catalog -/

namespace Catalog

/-- A head that is set stays, or is replaced by its direct successor. -/
def HeadStep (successor : CheckpointCandidateRecordV1 → CheckpointCandidateRecordV1 → Prop)
    (before after : Option CheckpointCandidateRecordV1) : Prop :=
  ∀ old ∈ before, ∃ new ∈ after, new = old ∨ successor new old

/-- Heads move to direct successors and retained bytes stay. -/
structure Step (s t : Catalog) : Prop where
  globalHead : HeadStep DirectSuccessor s.globalCheckpoint t.globalCheckpoint
  missionHead : ∀ id, HeadStep MissionSuccessor (s.missionCheckpoints id) (t.missionCheckpoints id)
  wires : ∀ id, ∀ wire ∈ s.publishedById id, wire ∈ t.publishedById id

/-- What is set stays. -/
structure Kept (s t : Catalog) : Prop where
  globalHead : ∀ old ∈ s.globalCheckpoint, old ∈ t.globalCheckpoint
  missionHead : ∀ id, ∀ old ∈ s.missionCheckpoints id, old ∈ t.missionCheckpoints id
  wires : ∀ id, ∀ wire ∈ s.publishedById id, wire ∈ t.publishedById id

variable {S : CatalogService} {s t u : Catalog} {c : CheckpointCandidateRecordV1}

theorem Kept.refl (s : Catalog) : Kept s s := ⟨fun _ h => h, fun _ _ h => h, fun _ _ h => h⟩

theorem Kept.trans (hst : Kept s t) (htu : Kept t u) : Kept s u where
  globalHead old h := htu.globalHead old (hst.globalHead old h)
  missionHead id old h := htu.missionHead id old (hst.missionHead id old h)
  wires id wire h := htu.wires id wire (hst.wires id wire h)

theorem Kept.step (h : Kept s t) : Step s t where
  globalHead old hold := ⟨old, h.globalHead old hold, .inl rfl⟩
  missionHead id old hold := ⟨old, h.missionHead id old hold, .inl rfl⟩
  wires := h.wires

/-- An entry that is written only over an equal one or none. -/
theorem mem_update {α : Type} {f : Digest → Option α} {key id : Digest} {value a : α}
    (hkey : ∀ b ∈ f key, b = value) (ha : a ∈ f id) :
    a ∈ Function.update f key (some value) id := by
  rcases eq_or_ne id key with rfl | hne
  · rw [Function.update_self, hkey a ha]
    rfl
  · rwa [Function.update_of_ne hne]

theorem withWire_kept (h : ¬WireConflict S s c) : Kept s (s.withWire S c) where
  globalHead _ h := h
  missionHead _ _ h := h
  wires id wire hwire := by
    refine mem_update (fun b hb => ?_) hwire
    by_contra hother
    exact h ⟨b, hb, hother⟩

/-- Retaining the bytes of a checkpoint changes no head and no other bytes. -/
theorem retain_kept : Kept s (retainPublishedCheckpointWire S s c).2 := by
  rw [retainPublishedCheckpointWire]
  split_ifs with h
  · exact .refl s
  · exact withWire_kept h

theorem withGlobal_kept : Kept s (s.withGlobal c) where
  globalHead old h := by
    rw [withGlobal, Option.mem_def.mp h]
    rfl
  missionHead _ _ h := h
  wires _ _ h := h

theorem withMission_kept : Kept s (s.withMission c) where
  globalHead _ h := h
  missionHead id old h := by
    rcases hhead : s.missionCheckpoints c.checkpoint.missionId with _ | current
    · rw [withMission, hhead]
      exact mem_update (fun b hb => absurd hb (by simp [hhead])) h
    · rw [withMission, hhead]
      exact mem_update (fun b hb => Option.mem_unique hb hhead) h
  wires _ _ h := h

theorem andThen_kept {x : CatalogOutcome} {f : Catalog → CatalogOutcome} (hx : Kept s x.2)
    (hf : ∀ t, Kept t (f t).2) : Kept s (x.andThen f).2 := by
  obtain ⟨_ | _, t⟩ := x
  · exact hx
  · exact hx.trans (hf t)

theorem primeGlobal_kept : Kept s (primeGlobal S s c).2 := by
  rw [primeGlobal]
  split_ifs with h
  · exact .refl s
  · exact withGlobal_kept.trans retain_kept

theorem primeMission_kept : Kept s (primeMission S s c).2 := by
  rw [primeMission]
  split_ifs with h
  · exact .refl s
  · exact withMission_kept.trans retain_kept

theorem primeWith_kept {prime : Catalog → CheckpointCandidateRecordV1 → CatalogOutcome}
    (h : ∀ s c, Kept s (prime s c).2) (c : Option CheckpointCandidateRecordV1) (s : Catalog) :
    Kept s (primeWith prime c s).2 := by
  cases c with
  | none => exact .refl s
  | some c => exact h s c

/-- Priming only sets what is not set. -/
theorem primeCatalog_kept (previousGlobal previousMission : Option IntegrityLineageV1) :
    Kept s (s.primeCatalog S previousGlobal previousMission).2 := by
  rw [primeCatalog]
  split_ifs
  · exact .refl s
  · exact .refl s
  · exact andThen_kept (primeWith_kept (fun _ _ => primeGlobal_kept) _ s)
      (primeWith_kept (fun _ _ => primeMission_kept) _)

/-- A candidate that extends the heads becomes both of them. -/
theorem withHeads_step (hglobal : GlobalOk S s c) (hmission : MissionOk S s c) :
    Step s (s.withHeads c) where
  globalHead old hold := by
    rw [GlobalOk, Option.mem_def.mp hold] at hglobal
    exact ⟨c, rfl, .inr hglobal⟩
  missionHead id old hold := by
    change ∃ new ∈ Function.update s.missionCheckpoints c.checkpoint.missionId (some c) id, _
    rcases eq_or_ne id c.checkpoint.missionId with rfl | hne
    · rw [MissionOk, Option.mem_def.mp hold] at hmission
      rw [Function.update_self]
      exact ⟨c, rfl, .inr hmission⟩
    · rw [Function.update_of_ne hne]
      exact ⟨old, hold, .inl rfl⟩
  wires _ _ h := h

/-- Publication is refused, finds its bytes retained, or sets both heads and retains them. -/
theorem publishCheckpoint_cases (candidate : Option CheckpointCandidateRecordV1) :
    (∃ e, s.publishCheckpoint S candidate = (.error e, s)) ∨
      ∃ c, candidate = some c ∧
        (s.publishedById c.checkpoint.checkpointId = some (S.signedWire c.signedCheckpoint) ∧
            s.publishCheckpoint S candidate = (.ok (), s) ∨
          s.publishedById c.checkpoint.checkpointId = none ∧ GlobalOk S s c ∧ MissionOk S s c ∧
            s.publishCheckpoint S candidate = (.ok (), (s.withWire S c).withHeads c)) := by
  cases candidate with
  | none => exact .inl ⟨_, rfl⟩
  | some c =>
    rw [publishCheckpoint]
    rcases hwire : s.publishedById c.checkpoint.checkpointId with _ | wire
    · dsimp only
      split_ifs with hok
      · refine .inr ⟨c, rfl, .inr ⟨hwire, hok.1, hok.2, ?_⟩⟩
        rw [retainPublishedCheckpointWire, if_neg]
        · rfl
        · rintro ⟨wire, hmem, -⟩
          rw [hwire] at hmem
          exact absurd hmem (by simp)
      · exact .inl ⟨_, rfl⟩
    · dsimp only
      split_ifs with hsame
      · exact .inl ⟨_, rfl⟩
      · exact .inr ⟨c, rfl, .inl ⟨hwire.trans (by rw [not_not.mp hsame]), rfl⟩⟩

theorem publishCheckpoint_step (candidate : Option CheckpointCandidateRecordV1) :
    Step s (s.publishCheckpoint S candidate).2 := by
  rcases publishCheckpoint_cases (S := S) (s := s) candidate with
    ⟨e, h⟩ | ⟨c, -, ⟨-, h⟩ | ⟨hwire, hglobal, hmission, h⟩⟩
  · rw [h]
    exact (Kept.refl s).step
  · rw [h]
    exact (Kept.refl s).step
  · rw [h]
    have hstep := withHeads_step (S := S) hglobal hmission
    refine ⟨hstep.globalHead, hstep.missionHead, (withWire_kept ?_).wires⟩
    rintro ⟨wire, hmem, -⟩
    rw [hwire] at hmem
    exact absurd hmem (by simp)

/-- Every call moves heads to direct successors and keeps the retained bytes. -/
theorem apply_step (call : CatalogCall) : Step s (call.apply S s).2 := by
  cases call with
  | prime previousGlobal previousMission => exact (primeCatalog_kept _ _).step
  | publish candidate => exact publishCheckpoint_step candidate

/-- The bytes retained for a checkpoint stay the same in every later catalog. -/
theorem run_wires (calls : List CatalogCall) (s : Catalog) {id : Digest} {wire : List UInt8}
    (h : wire ∈ s.publishedById id) : wire ∈ (CatalogCall.run S s calls).publishedById id := by
  induction calls generalizing s with
  | nil => exact h
  | cons call calls ih => exact ih _ ((apply_step call).wires id wire h)

/-- Publishing a published checkpoint again changes nothing. -/
theorem publish_published
    (h : s.publishedById c.checkpoint.checkpointId = some (S.signedWire c.signedCheckpoint)) :
    s.publishCheckpoint S (some c) = (.ok (), s) := by
  rw [publishCheckpoint, h]
  exact if_neg (not_not.mpr rfl)

/-- What was published has its bytes retained. -/
theorem published_of_ok (h : (s.publishCheckpoint S (some c)).1 = .ok ()) :
    (s.publishCheckpoint S (some c)).2.publishedById c.checkpoint.checkpointId =
      some (S.signedWire c.signedCheckpoint) := by
  rcases publishCheckpoint_cases (S := S) (s := s) (some c) with
    ⟨e, heq⟩ | ⟨c', hc, ⟨hwire, heq⟩ | ⟨-, -, -, heq⟩⟩
  · rw [heq] at h
    exact absurd h (by simp)
  · obtain rfl := Option.some.inj hc
    rw [heq]
    exact hwire
  · obtain rfl := Option.some.inj hc
    rw [heq]
    exact Function.update_self ..

/-! ## Calls that raise -/

/-- A call that raises leaves the catalog as it was. -/
def Atomic (S : CatalogService) (s : Catalog) (call : CatalogCall) : Prop :=
  (call.apply S s).1 ≠ .ok () → (call.apply S s).2 = s

theorem Kept.antisymm (hst : Kept s t) (hts : Kept t s) : s = t := by
  ext1
  · exact Option.ext fun a => ⟨hst.globalHead a, hts.globalHead a⟩
  · funext id
    exact Option.ext fun a => ⟨hst.missionHead id a, hts.missionHead id a⟩
  · funext id
    exact Option.ext fun a => ⟨hst.wires id a, hts.wires id a⟩

/-- The global predecessor is accepted, if there is one. -/
def GlobalAccepted (S : CatalogService) (s : Catalog) (g : Option CheckpointCandidateRecordV1) :
    Prop :=
  ∀ c ∈ g, ¬GlobalConflict S s c ∧ ¬WireConflict S s c

/-- The global predecessor sets the head or retains bytes. -/
def GlobalNews (s : Catalog) (g : Option CheckpointCandidateRecordV1) : Prop :=
  ∃ c ∈ g, s.globalCheckpoint = none ∨ s.publishedById c.checkpoint.checkpointId = none

/-- The identity of a mission predecessor has other bytes, in the catalog or in the global
predecessor. -/
def WireClash (S : CatalogService) (s : Catalog) (g : Option CheckpointCandidateRecordV1)
    (m : CheckpointCandidateRecordV1) : Prop :=
  (∃ c ∈ g, c.checkpoint.checkpointId = m.checkpoint.checkpointId ∧
      S.signedWire c.signedCheckpoint ≠ S.signedWire m.signedCheckpoint) ∨
    WireConflict S s m

/-- Priming is not refused after its first update. -/
structure GuardedPrime (S : CatalogService) (s : Catalog)
    (g m : Option CheckpointCandidateRecordV1) : Prop where
  /-- A global head that is set is not refused for its bytes. -/
  globalWire : ∀ c ∈ g, s.globalCheckpoint = none → ¬WireConflict S s c
  /-- A mission head that is refused follows no news. -/
  missionHead : GlobalAccepted S s g → ∀ c ∈ m, MissionConflict S s c → ¬GlobalNews s g
  /-- A mission head that is refused for its bytes was set before and follows no news. -/
  missionWire : GlobalAccepted S s g → ∀ c ∈ m, ¬MissionConflict S s c → WireClash S s g c →
    ¬GlobalNews s g ∧ s.missionCheckpoints c.checkpoint.missionId ≠ none

/-- A call that is not refused after its first update. -/
def Guarded (S : CatalogService) (s : Catalog) : CatalogCall → Prop
  | .publish _ => True
  | .prime previousGlobal previousMission =>
    Unfinalized previousGlobal ∨ Unfinalized previousMission ∨
      GuardedPrime S s (previousGlobal.bind IntegrityLineageV1.checkpointCandidate)
        (previousMission.bind IntegrityLineageV1.checkpointCandidate)

theorem withGlobal_eq_iff : s.withGlobal c = s ↔ s.globalCheckpoint ≠ none := by
  constructor
  · intro h hnone
    have := congrArg globalCheckpoint h
    rw [withGlobal, hnone] at this
    exact absurd this (by simp)
  · intro h
    obtain ⟨current, hcurrent⟩ := Option.ne_none_iff_exists'.mp h
    rw [withGlobal, hcurrent, Option.some_or, ← hcurrent]

theorem withMission_eq_iff :
    s.withMission c = s ↔ s.missionCheckpoints c.checkpoint.missionId ≠ none := by
  constructor
  · intro h hnone
    have hset : (s.withMission c).missionCheckpoints c.checkpoint.missionId = some c := by
      rw [withMission, hnone]
      exact Function.update_self ..
    rw [h, hnone] at hset
    exact absurd hset (by simp)
  · intro h
    obtain ⟨current, hcurrent⟩ := Option.ne_none_iff_exists'.mp h
    rw [withMission, hcurrent, Option.some_or, ← hcurrent, Function.update_eq_self]

theorem withWire_eq_iff (hwire : ¬WireConflict S s c) :
    s.withWire S c = s ↔ s.publishedById c.checkpoint.checkpointId ≠ none := by
  constructor
  · intro h hnone
    have hset : (s.withWire S c).publishedById c.checkpoint.checkpointId =
        some (S.signedWire c.signedCheckpoint) := Function.update_self ..
    rw [h, hnone] at hset
    exact absurd hset (by simp)
  · intro h
    obtain ⟨wire, hsome⟩ := Option.ne_none_iff_exists'.mp h
    have hsame : wire = S.signedWire c.signedCheckpoint := by
      by_contra hother
      exact hwire ⟨wire, hsome, hother⟩
    rw [withWire, ← hsame, ← hsome, Function.update_eq_self]

/-- An accepted global predecessor changes the catalog exactly when it brings news. -/
theorem global_eq_iff (hwire : ¬WireConflict S s c) :
    (s.withGlobal c).withWire S c = s ↔ ¬GlobalNews s (some c) := by
  have hnews : ¬GlobalNews s (some c) ↔
      s.globalCheckpoint ≠ none ∧ s.publishedById c.checkpoint.checkpointId ≠ none := by
    simp [GlobalNews]
  rw [hnews, ← withGlobal_eq_iff (c := c), ← withWire_eq_iff hwire]
  have hlater : Kept (s.withGlobal c) ((s.withGlobal c).withWire S c) := withWire_kept hwire
  constructor
  · intro h
    have hsame : s.withGlobal c = s := Kept.antisymm (h ▸ hlater :) withGlobal_kept
    exact ⟨hsame, by rwa [hsame] at h⟩
  · rintro ⟨hglobal, hwires⟩
    rw [hglobal, hwires]

/-- Priming a mission leaves an earlier catalog as it was exactly when its refusal comes before
any update. -/
theorem primeMission_atomic {m : CheckpointCandidateRecordV1} (hkept : Kept s t) :
    ((primeMission S t m).1 ≠ .ok () → (primeMission S t m).2 = s) ↔
      (MissionConflict S t m → t = s) ∧
        (¬MissionConflict S t m → WireConflict S t m →
          t = s ∧ t.missionCheckpoints m.checkpoint.missionId ≠ none) := by
  rw [primeMission]
  split_ifs with hconflict
  · simp [hconflict]
  · rw [retainPublishedCheckpointWire]
    have hsame : WireConflict S (t.withMission m) m ↔ WireConflict S t m := Iff.rfl
    split_ifs with hwire
    · have hwire := hsame.mp hwire
      simp only [hconflict, hwire, ne_eq, reduceCtorEq, not_false_eq_true, forall_const,
        false_implies, true_and]
      constructor
      · intro h
        have hts : t = s := Kept.antisymm (h ▸ withMission_kept) hkept
        exact ⟨hts, withMission_eq_iff.mp (h.trans hts.symm)⟩
      · rintro ⟨rfl, hhead⟩
        exact withMission_eq_iff.mpr hhead
    · simp [hconflict, mt hsame.mpr hwire]

/-- The bytes that an accepted global predecessor leaves for a mission. -/
theorem wireConflict_after {m : CheckpointCandidateRecordV1} (hwire : ¬WireConflict S s c) :
    WireConflict S ((s.withGlobal c).withWire S c) m ↔ WireClash S s (some c) m := by
  have hlookup : ∀ id, ((s.withGlobal c).withWire S c).publishedById id =
      Function.update s.publishedById c.checkpoint.checkpointId
        (some (S.signedWire c.signedCheckpoint)) id := fun _ => rfl
  rw [WireConflict, hlookup]
  rcases eq_or_ne m.checkpoint.checkpointId c.checkpoint.checkpointId with hid | hid
  · rw [hid, Function.update_self]
    constructor
    · rintro ⟨wire, hmem, hne⟩
      obtain rfl := Option.mem_some_iff.mp hmem
      exact .inl ⟨c, rfl, hid.symm, hne⟩
    · rintro (⟨g, hg, -, hne⟩ | ⟨wire, hmem, hne⟩)
      · obtain rfl := Option.mem_some_iff.mp hg
        exact ⟨_, rfl, hne⟩
      · refine ⟨_, rfl, fun hsame => hwire ⟨wire, hid ▸ hmem, fun h => hne (h.trans hsame)⟩⟩
  · rw [Function.update_of_ne hid]
    constructor
    · exact fun h => .inr h
    · rintro (⟨g, hg, heq, -⟩ | h)
      · obtain rfl := Option.mem_some_iff.mp hg
        exact absurd heq.symm hid
      · exact h

/-- Priming a global predecessor is refused before any update, refused after the head was set,
or accepted. -/
theorem primeGlobal_cases :
    GlobalConflict S s c ∧ (∃ e, primeGlobal S s c = (.error e, s)) ∨
      ¬GlobalConflict S s c ∧ WireConflict S s c ∧
        (∃ e, primeGlobal S s c = (.error e, s.withGlobal c)) ∨
      (¬GlobalConflict S s c ∧ ¬WireConflict S s c) ∧
        primeGlobal S s c = (.ok (), (s.withGlobal c).withWire S c) := by
  rw [primeGlobal]
  split_ifs with hconflict
  · exact .inl ⟨hconflict, _, rfl⟩
  · have hsame : WireConflict S (s.withGlobal c) c ↔ WireConflict S s c := Iff.rfl
    rw [retainPublishedCheckpointWire]
    split_ifs with hwire
    · exact .inr (.inl ⟨hconflict, hsame.mp hwire, _, rfl⟩)
    · exact .inr (.inr ⟨⟨hconflict, mt hsame.mpr hwire⟩, rfl⟩)

/-- Priming the mission last is atomic when it is refused without news and before its update. -/
theorem mission_atomic_iff (g m : Option CheckpointCandidateRecordV1) (hkept : Kept s t)
    (hmissions : t.missionCheckpoints = s.missionCheckpoints) (hnews : t = s ↔ ¬GlobalNews s g)
    (hclash : ∀ c, WireConflict S t c ↔ WireClash S s g c) :
    ((primeWith (primeMission S) m t).1 ≠ .ok () → (primeWith (primeMission S) m t).2 = s) ↔
      (∀ c ∈ m, MissionConflict S s c → ¬GlobalNews s g) ∧
        ∀ c ∈ m, ¬MissionConflict S s c → WireClash S s g c →
          ¬GlobalNews s g ∧ s.missionCheckpoints c.checkpoint.missionId ≠ none := by
  cases m with
  | none => simp [primeWith]
  | some c =>
    have hconflict : MissionConflict S t c ↔ MissionConflict S s c := by
      rw [MissionConflict, MissionConflict, hmissions]
    rw [primeWith, Option.elim_some, primeMission_atomic hkept, hconflict, hclash, hnews, hmissions]
    simp only [Option.mem_some_iff, forall_eq']

/-- A call leaves the catalog as it was when it raises exactly when it is guarded. -/
theorem atomic_iff (S : CatalogService) (s : Catalog) (call : CatalogCall) :
    Atomic S s call ↔ Guarded S s call := by
  cases call with
  | publish candidate =>
    refine ⟨fun _ => trivial, fun _ hraises => ?_⟩
    rw [CatalogCall.apply] at hraises ⊢
    rcases publishCheckpoint_cases (S := S) (s := s) candidate with
      ⟨e, h⟩ | ⟨c, -, ⟨-, h⟩ | ⟨-, -, -, h⟩⟩
    · rw [h]
    · rw [h]
    · rw [h] at hraises
      exact absurd rfl hraises
  | prime previousGlobal previousMission =>
    rw [Atomic, Guarded, CatalogCall.apply, primeCatalog]
    split_ifs with hglobal hmission
    · simp [hglobal]
    · simp [hmission]
    · rw [or_iff_right hglobal, or_iff_right hmission]
      generalize previousGlobal.bind IntegrityLineageV1.checkpointCandidate = g
      generalize previousMission.bind IntegrityLineageV1.checkpointCandidate = m
      cases g with
      | none =>
        have hnews : s = s ↔ ¬GlobalNews s none := by simp [GlobalNews]
        have hclash : ∀ c, WireConflict S s c ↔ WireClash S s none c := by simp [WireClash]
        have haccepted : GlobalAccepted S s none := by simp [GlobalAccepted]
        refine (mission_atomic_iff none m (.refl s) rfl hnews hclash).trans ⟨?_, ?_⟩
        · rintro ⟨hhead, hwire⟩
          exact ⟨by simp, fun _ => hhead, fun _ => hwire⟩
        · intro h
          exact ⟨h.missionHead haccepted, h.missionWire haccepted⟩
      | some c =>
        rw [primeWith, Option.elim_some]
        rcases primeGlobal_cases (S := S) (s := s) (c := c) with
          ⟨hconflict, e, h⟩ | ⟨hconflict, hwire, e, h⟩ | ⟨⟨hconflict, hwire⟩, h⟩
        · -- A conflict is refused before any update, and there is a head to conflict with.
          have hrefused : ¬GlobalAccepted S s (some c) := fun h => (h c rfl).1 hconflict
          rw [h]
          refine ⟨fun _ => ⟨fun d hd hnone => ?_, fun h => absurd h hrefused,
            fun h => absurd h hrefused⟩, fun _ _ => rfl⟩
          obtain ⟨current, hcurrent, -⟩ := hconflict
          exact absurd (Option.mem_def.mp hcurrent ▸ hnone) (by simp)
        · have hrefused : ¬GlobalAccepted S s (some c) := fun h => (h c rfl).2 hwire
          rw [h]
          constructor
          · intro hatomic
            have hhead := withGlobal_eq_iff.mp (hatomic (by simp [CatalogOutcome.andThen]))
            exact ⟨fun d hd hnone => absurd hnone hhead, fun h => absurd h hrefused,
              fun h => absurd h hrefused⟩
          · intro hguarded _
            exact withGlobal_eq_iff.mpr fun hnone => hguarded.globalWire c rfl hnone hwire
        · have haccepted : GlobalAccepted S s (some c) := by
            intro d hd
            obtain rfl := Option.mem_some_iff.mp hd
            exact ⟨hconflict, hwire⟩
          have hkept : Kept s ((s.withGlobal c).withWire S c) :=
            withGlobal_kept.trans (withWire_kept hwire)
          rw [h]
          refine (mission_atomic_iff (some c) m hkept rfl (global_eq_iff hwire)
            fun d => wireConflict_after hwire).trans ⟨?_, ?_⟩
          · rintro ⟨hhead, hclash⟩
            exact ⟨fun d hd _ => (haccepted d hd).2, fun _ => hhead, fun _ => hclash⟩
          · intro hguarded
            exact ⟨hguarded.missionHead haccepted, hguarded.missionWire haccepted⟩

/-! ## Runs -/

variable (S : CatalogService)

/-- In a run from the empty catalog every head moves to direct successors only, and no identity
ever has two signed wires. -/
structure LinearRun (calls : List CatalogCall) : Prop where
  steps : ∀ before call after, calls = before ++ call :: after →
    Step (CatalogCall.run S empty before) (CatalogCall.run S empty (before ++ [call]))
  wires : ∀ before later after, calls = before ++ later ++ after →
    ∀ id, ∀ wire ∈ (CatalogCall.run S empty before).publishedById id,
      ∀ wire' ∈ (CatalogCall.run S empty (before ++ later)).publishedById id, wire' = wire

/-- A checkpoint that was published is published again at any later time without effect. -/
def IdempotentRun (calls : List CatalogCall) : Prop :=
  ∀ before c between after,
    calls = before ++ [.publish (some c)] ++ between ++ .publish (some c) :: after →
      ((CatalogCall.run S empty before).publishCheckpoint S (some c)).1 = .ok () →
        (CatalogCall.run S empty (before ++ [.publish (some c)] ++ between)).publishCheckpoint S
            (some c) =
          (.ok (), CatalogCall.run S empty (before ++ [.publish (some c)] ++ between))

/-- A call that raises leaves the heads and the wires as they were. -/
def AtomicRun (calls : List CatalogCall) : Prop :=
  ∀ before call after, calls = before ++ call :: after →
    (call.apply S (CatalogCall.run S empty before)).1 ≠ .ok () →
      CatalogCall.run S empty (before ++ [call]) = CatalogCall.run S empty before

/-- No call is refused after its first update. -/
def GuardedRun (calls : List CatalogCall) : Prop :=
  ∀ before call after, calls = before ++ call :: after →
    Guarded S (CatalogCall.run S empty before) call

theorem run_append (before later : List CatalogCall) :
    CatalogCall.run S s (before ++ later) =
      CatalogCall.run S (CatalogCall.run S s before) later :=
  List.foldl_append

theorem run_concat (before : List CatalogCall) (call : CatalogCall) :
    CatalogCall.run S s (before ++ [call]) = (call.apply S (CatalogCall.run S s before)).2 :=
  run_append S before [call]

theorem linearRun (calls : List CatalogCall) : LinearRun S calls where
  steps before call _ _ := by
    rw [run_concat]
    exact apply_step call
  wires before later _ _ id wire hwire wire' hwire' := by
    rw [run_append] at hwire'
    exact Option.mem_unique hwire' (run_wires later _ hwire)

theorem idempotentRun (calls : List CatalogCall) : IdempotentRun S calls := by
  intro before c between after _ hok
  refine publish_published ?_
  rw [run_append, run_concat]
  exact run_wires between _ (published_of_ok hok)

/-- Every sequence of calls moves the heads linearly, keeps one wire for a checkpoint and
publishes again without effect, and its calls that raise have no effect exactly when none is
refused after its first update. -/
theorem catalog_laws (calls : List CatalogCall) :
    LinearRun S calls ∧ IdempotentRun S calls ∧ (AtomicRun S calls ↔ GuardedRun S calls) := by
  refine ⟨linearRun S calls, idempotentRun S calls, ?_⟩
  have hcall : ∀ before call, ((call.apply S (CatalogCall.run S empty before)).1 ≠ .ok () →
      CatalogCall.run S empty (before ++ [call]) = CatalogCall.run S empty before) ↔
        Guarded S (CatalogCall.run S empty before) call := by
    intro before call
    rw [run_concat]
    exact atomic_iff S _ call
  constructor
  · exact fun h before call after hcalls => (hcall before call).mp (h before call after hcalls)
  · exact fun h before call after hcalls => (hcall before call).mpr (h before call after hcalls)

/-! ## A priming that is refused too late -/

def sampleCatalogService : CatalogService where
  primitives := sampleIntegrity
  signedWire c := [UInt8.ofNat c.checkpoint.eventSeq]
  serviceInstanceId := "service"
  environmentId := "test"

/-- The finalized lineage of the `n`th event of the sample mission. -/
def sampleFinalLineage (n : ℕ) (e : EventV1) : IntegrityLineageV1 where
  pending := samplePending n e
  anchorStatement := some (sampleAnchor n e)
  checkpointCandidate := some (sampleCheckpointCandidate n e)
  finalization := some (sampleFinalization n e)

/-- The mission is primed with its first event, and then with its second. -/
def samplePrimings : List CatalogCall :=
  [.prime none (some (sampleFinalLineage 0 sampleFirst)),
    .prime (some (sampleFinalLineage 0 sampleFirst)) (some (sampleFinalLineage 1 sampleSecond))]

/-- The second priming is refused for its mission and has set the global head. -/
theorem catalog_late_refusal : ¬AtomicRun sampleCatalogService samplePrimings := by
  intro h
  have hsame := congrArg (fun s => s.globalCheckpoint.isSome)
    (h [.prime none (some (sampleFinalLineage 0 sampleFirst))] _ [] rfl (by decide +kernel))
  revert hsame
  decide +kernel

end Catalog

end Etzio
