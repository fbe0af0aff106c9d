import Etzio.StoreWrites

/-!
# Connections and runs

Any number of connections work on one database, each transaction serialised and
atomic. A connection remembers the change signals of the last state it authenticated
(`_integrity_validation_cache`) : SQLite's `total_changes` grows with its own row
changes and `data_version` with the commits of the others. A transaction whose signals
still match skips the replay.

`Step` is one transaction of one connection, with every way it can end ; `Reaches` is
a run of them. A public operation is a `Program` of transactions : most are one
transaction, and `append_pending_integrity_event` reads the acceptance mode before its
append and, after a stale head, what is retained. `Exec` runs a program while other
connections take steps between its transactions. `Sys.perform` and `Program.run` compute
the uninterrupted case.
-/

open CheckedRun Rows

namespace Etzio

variable (E : Env)

/-! ## Transactions -/

/-- The transactions of a connection, by what they return. -/
inductive Txn : Type → Type
  | appendVerifiedEvent (r : AppendRequest E) : Txn EventV1
  | retainIntegrityAnchorStatement (a : AnchorStatementRecordV1) (bundles : E.Bundles) :
      Txn AnchorStatementRecordV1
  | retainIntegrityCheckpointCandidate (c : CheckpointCandidateRecordV1) (bundles : E.Bundles) :
      Txn CheckpointCandidateRecordV1
  | finalizeIntegrityTransition (f : FinalizedIntegrityTransitionV1) (bundles : E.Bundles) :
      Txn FinalizedIntegrityTransitionV1
  | enrollBlockedFinalityRecovery (p : BlockedFinalityRecoveryProfileV1) : Txn Digest
  | retainBlockedFinalityObservation (o : BlockedFinalityObservationV1) :
      Txn BlockedFinalityObservationV1
  | retainGovernedRecoveryDecision (d : SignedGovernedRecoveryDecisionV1) : Txn Digest
  | enrollModeledIntegrity (p : ModeledProfile) : Txn Unit
  | enrollQualifiedAcceptance (q : E.Qualified) : Txn AcceptanceMode
  | storeCheckpoint (c : SignedCheckpoint) : Txn SignedCheckpoint
  | load (m : Digest) : Txn (List EventV1)
  | loadIntegrityEvent (d : Digest) : Txn (Option EventV1)
  | loadIntegrityLineage (d : Digest) : Txn (Option IntegrityLineageV1)
  | loadIntegrityPredecessorLineages (d : Digest) :
      Txn (Option IntegrityLineageV1 × Option IntegrityLineageV1)
  | loadLatestFinalizedIntegrityLineages (m : Digest) :
      Txn (Option IntegrityLineageV1 × Option IntegrityLineageV1)
  | loadUnresolvedIntegrityTransition : Txn (Option IntegrityLineageV1)
  | loadBlockedFinalityObservations (d : Digest) : Txn (List BlockedFinalityObservationV1)
  | loadGovernedRecoveryDecision (observationId : Digest) :
      Txn (Option SignedGovernedRecoveryDecisionV1)
  | instanceIsSealed : Txn Bool
  | resolveAcceptanceMode : Txn AcceptanceMode

/-- What an operation checks before it begins its transaction. -/
def Txn.precheck {ρ : Type} : Txn E ρ → Except StoreError Unit
  | .appendVerifiedEvent r => r.validate E
  | .retainIntegrityAnchorStatement a _ => snapshotIntegrityRecord (E.integrity.anchorBytes a)
  | .retainIntegrityCheckpointCandidate c _ =>
    snapshotIntegrityRecord (E.integrity.candidateBytes c)
  | .finalizeIntegrityTransition f _ => snapshotIntegrityRecord (E.integrity.finalizationBytes f)
  | .enrollBlockedFinalityRecovery p =>
    refuseIf (maxIntegrityRecordBytesV1 < E.recovery.profileBytes p)
      ⟨.storeCapacity, "the recovery profile exceeds its record ceiling"⟩
  | .retainBlockedFinalityObservation o =>
    refuseIf (maxIntegrityRecordBytesV1 < E.recovery.observationBytes o)
      ⟨.storeCapacity, "the blocked observation exceeds its record ceiling"⟩
  | .retainGovernedRecoveryDecision d =>
    refuseIf (maxIntegrityRecordBytesV1 < E.recovery.decisionBytes d)
      ⟨.storeCapacity, "the recovery decision exceeds its record ceiling"⟩
  | _ => .ok ()

/-- A transaction that only reads. -/
def readOnly {ρ : Type} (x : Except StoreError ρ) : Except StoreError (Commit E × ρ) := do
  let r ← x
  return (.unchanged, r)

/-- What an authenticated transaction does, under the connection's vault ceiling. -/
def Txn.body (cap : ℕ) (t : E.Db) {ρ : Type} : Txn E ρ → Except StoreError (Commit E × ρ)
  | .appendVerifiedEvent r => Etzio.appendVerifiedEvent E cap t r
  | .retainIntegrityAnchorStatement a b => Etzio.retainIntegrityAnchorStatement E cap t a b
  | .retainIntegrityCheckpointCandidate c b =>
    Etzio.retainIntegrityCheckpointCandidate E cap t c b
  | .finalizeIntegrityTransition f b => Etzio.finalizeIntegrityTransition E cap t f b
  | .enrollBlockedFinalityRecovery p => Etzio.enrollBlockedFinalityRecovery E cap t p
  | .retainBlockedFinalityObservation o => Etzio.retainBlockedFinalityObservation E cap t o
  | .retainGovernedRecoveryDecision d => Etzio.retainGovernedRecoveryDecision E cap t d
  | .enrollModeledIntegrity p => Etzio.enrollModeledIntegrity E cap t p
  | .enrollQualifiedAcceptance q => Etzio.enrollQualifiedAcceptance E cap t q
  | .storeCheckpoint c => Etzio.storeCheckpoint E t c
  | .load m => readOnly E (Etzio.load E t m)
  | .loadIntegrityEvent d => readOnly E (Etzio.loadIntegrityEvent E t d)
  | .loadIntegrityLineage d => readOnly E (Etzio.loadIntegrityLineage E t d)
  | .loadIntegrityPredecessorLineages d => readOnly E (predecessorLineages E t d)
  | .loadLatestFinalizedIntegrityLineages m =>
    readOnly E (Etzio.loadLatestFinalizedIntegrityLineages E t m)
  | .loadUnresolvedIntegrityTransition => readOnly E (Etzio.loadUnresolvedIntegrityTransition E t)
  | .loadBlockedFinalityObservations d => readOnly E (blockedObservations E t d)
  | .loadGovernedRecoveryDecision i => readOnly E
    (.ok ((findBy DecisionRow.blockedObservationId i t.decisions).map DecisionRow.record))
  | .instanceIsSealed => readOnly E (.ok (decide t.Sealed))
  | .resolveAcceptanceMode => readOnly E (.ok (acceptanceMode t))

/-! ## Connections -/

/-- The change signals of the cache key ; the connection settings in it never change. -/
structure Signals where
  totalChanges : ℕ
  dataVersion : ℕ
  deriving DecidableEq

/-- One connection. -/
structure Conn where
  maxVaultBytes : ℕ
  signals : Signals
  cache : Option Signals

/-- The database with its connections. -/
structure Sys where
  tables : E.Db
  conns : ℕ → Conn

/-- `_validate_integrity_state_locked` : matching signals skip the replay. -/
def authenticate (t : E.Db) (c : Conn) : Except StoreError Unit :=
  if c.cache = some c.signals then .ok () else validateIntegrityStateUncached E t

/-- A transaction of a connection, from its authentication to its end. -/
def transact {ρ : Type} (t : E.Db) (c : Conn) (x : Txn E ρ) :
    Except StoreError (Commit E × ρ) := do
  authenticate E t c
  x.body E c.maxVaultBytes t

variable {E}

/-- The state after connection `i` was rolled back : its cache is gone, and the rolled
back changes still count. -/
def Sys.rolledBack (s : Sys E) (i totalChanges : ℕ) : Sys E :=
  ⟨s.tables, Function.update s.conns i ⟨(s.conns i).maxVaultBytes,
    ⟨totalChanges, (s.conns i).signals.dataVersion⟩, none⟩⟩

/-- The state after connection `i` authenticated and changed nothing. -/
def Sys.validated (s : Sys E) (i : ℕ) : Sys E :=
  ⟨s.tables, Function.update s.conns i { s.conns i with cache := some (s.conns i).signals }⟩

@[simp]
theorem Sys.rolledBack_cache (s : Sys E) (i n : ℕ) :
    ((s.rolledBack i n).conns i).cache = none := by
  simp [Sys.rolledBack]

theorem Sys.rolledBack_of_ne (s : Sys E) (n : ℕ) {i j : ℕ} (h : j ≠ i) :
    (s.rolledBack i n).conns j = s.conns j :=
  Function.update_of_ne h _ _

@[simp]
theorem Sys.validated_self (s : Sys E) (i : ℕ) :
    (s.validated i).conns i = { s.conns i with cache := some (s.conns i).signals } := by
  simp [Sys.validated]

theorem Sys.validated_of_ne (s : Sys E) {i j : ℕ} (h : j ≠ i) :
    (s.validated i).conns j = s.conns j :=
  Function.update_of_ne h _ _

/-- The connections after `i` committed rows : its own signal counts them, the others
see a foreign commit. -/
structure Committed (conns conns' : ℕ → Conn) (i : ℕ) (published : Bool) : Prop where
  ceiling : ∀ j, (conns' j).maxVaultBytes = (conns j).maxVaultBytes
  own : (conns i).signals.totalChanges < (conns' i).signals.totalChanges
  ownData : (conns' i).signals.dataVersion = (conns i).signals.dataVersion
  ownCache : (conns' i).cache =
    if published then some (conns' i).signals else some (conns i).signals
  foreign : ∀ j, j ≠ i → (conns j).signals.dataVersion < (conns' j).signals.dataVersion
  foreignTotal : ∀ j, j ≠ i → (conns' j).signals.totalChanges = (conns j).signals.totalChanges
  foreignCache : ∀ j, j ≠ i → (conns' j).cache = (conns j).cache

/-- One transaction of connection `i`, with its result. -/
inductive Step {ρ : Type} (s : Sys E) (i : ℕ) (x : Txn E ρ) : Except StoreError ρ → Sys E → Prop
  /-- The request is refused before the transaction begins. -/
  | invalid {e} (h : x.precheck E = .error e) : Step s i x (.error e) s
  /-- The transaction is refused and rolled back. -/
  | refused {e n} (h : x.precheck E = .ok ())
      (hx : transact E s.tables (s.conns i) x = .error e)
      (hn : (s.conns i).signals.totalChanges ≤ n) : Step s i x (.error e) (s.rolledBack i n)
  /-- SQLite or the process fails at some point, and the transaction is rolled back. -/
  | interrupted {e n} (hn : (s.conns i).signals.totalChanges ≤ n) :
      Step s i x (.error e) (s.rolledBack i n)
  /-- The transaction commits no row. -/
  | unchanged {r} (h : x.precheck E = .ok ())
      (hx : transact E s.tables (s.conns i) x = .ok (.unchanged, r)) :
      Step s i x (.ok r) (s.validated i)
  /-- The transaction commits rows. -/
  | wrote {r t published conns} (h : x.precheck E = .ok ())
      (hx : transact E s.tables (s.conns i) x = .ok (.wrote t published, r))
      (hc : Committed s.conns conns i published) : Step s i x (.ok r) ⟨t, conns⟩

/-- A run of transactions. -/
inductive Reaches (s : Sys E) : Sys E → Prop
  | refl : Reaches s s
  | step {s' s'' : Sys E} {ρ : Type} {i : ℕ} {x : Txn E ρ} {r : Except StoreError ρ}
      (h : Reaches s s') (hs : Step s' i x r s'') : Reaches s s''

/-- A database that connections have opened and none has authenticated yet. -/
def Sys.Opened (s : Sys E) : Prop := ∀ i, (s.conns i).cache = none

/-- The states of a store that was created empty. -/
def Sys.Reachable (s : Sys E) : Prop :=
  ∃ s₀ : Sys E, s₀.tables = E.freshDb ∧ s₀.Opened ∧ Reaches s₀ s

theorem Reaches.trans {s s' s'' : Sys E} (h : Reaches s s') (h' : Reaches s' s'') :
    Reaches s s'' := by
  induction h' with
  | refl => exact h
  | step _ hs ih => exact ih.step hs

theorem Sys.Reachable.reaches {s s' : Sys E} (h : s.Reachable) (hr : Reaches s s') :
    s'.Reachable := by
  obtain ⟨s₀, hfresh, hopen, h⟩ := h
  exact ⟨s₀, hfresh, hopen, h.trans hr⟩

/-! ## What a step does to the tables -/

/-- The body of a transaction that committed ran on an authenticated state. -/
theorem transact_eq_ok {ρ : Type} {t : E.Db} {c : Conn} {x : Txn E ρ} {r : Commit E × ρ} :
    transact E t c x = .ok r ↔
      authenticate E t c = .ok () ∧ x.body E c.maxVaultBytes t = .ok r := by
  rw [transact, unit_bind_eq_ok]

/-- A step leaves the tables alone, or it is a transaction that commits rows. -/
theorem Step.tables {ρ : Type} {s s' : Sys E} {i : ℕ} {x : Txn E ρ} {r : Except StoreError ρ}
    (h : Step s i x r s') :
    s'.tables = s.tables ∨ ∃ reply published, r = .ok reply ∧
      transact E s.tables (s.conns i) x = .ok (.wrote s'.tables published, reply) := by
  cases h with
  | invalid h => exact .inl rfl
  | refused h hx hn => exact .inl rfl
  | interrupted hn => exact .inl rfl
  | unchanged h hx => exact .inl rfl
  | wrote h hx hc => exact .inr ⟨_, _, rfl, hx⟩

/-! ## Programs -/

/-- An operation as the transactions it takes one after another ; `read` is a query
outside any transaction. -/
inductive Program (E : Env) (ρ : Type) : Type 1
  | done (r : Except StoreError ρ)
  | transaction {σ : Type} (x : Txn E σ) (next : Except StoreError σ → Program E ρ)
  | read (next : E.Db → Program E ρ)

/-- A program that begins with a check. -/
def Program.guarded {ρ : Type} (x : Except StoreError Unit) (p : Program E ρ) : Program E ρ :=
  match x with
  | .error e => .done (.error e)
  | .ok () => p

/-- A program of connection `i` runs from `s` to `s'`, any steps being taken between its
own. `own` lists the tables before and after each of its transactions. -/
inductive Exec {ρ : Type} (i : ℕ) : Sys E → Program E ρ → Except StoreError ρ →
    List (E.Db × E.Db) → Sys E → Prop
  | done {s r} : Exec i s (.done r) r [] s
  | transaction {s s₁ s₂ s₃ : Sys E} {σ : Type} {x : Txn E σ} {y next r own}
      (h : Reaches s s₁) (hs : Step s₁ i x y s₂) (hn : Exec i s₂ (next y) r own s₃) :
      Exec i s (.transaction x next) r ((s₁.tables, s₂.tables) :: own) s₃
  | read {s s₁ s₂ : Sys E} {next r own} (h : Reaches s s₁)
      (hn : Exec i s₁ (next s₁.tables) r own s₂) : Exec i s (.read next) r own s₂

/-- The request of `append_pending_integrity_event`. -/
structure PendingRequest (E : Env) where
  event : EventV1
  expectedHead : Digest
  pending : PendingIntegrityTransitionV1
  bundles : E.Bundles
  staging : Option E.Staging

/-- The append a pending request makes. -/
def PendingRequest.append (r : PendingRequest E) : AppendRequest E where
  event := r.event
  expectedHead := r.expectedHead
  staging := r.staging
  dossier := some (r.pending, r.bundles)

/-- The checks of `append_pending_integrity_event` after the acceptance mode. -/
def PendingRequest.validate (r : PendingRequest E) : Except StoreError Unit := do
  validateAppendRequest E r.event
  refuseIf (r.event.kind ∈ protectedEvidenceEventKindsV1 ∧ r.staging.isNone)
    (storeError "protected integrity append requires an exact FileEvidenceStore")
  refuseIf (r.event.kind ∉ protectedEvidenceEventKindsV1 ∧ r.staging.isSome)
    (storeError "ordinary integrity append cannot receive an evidence store")

/-- The handler of a stale head : the same event retained with the same dossier is
verified again and returned. -/
def PendingRequest.reconcile (r : PendingRequest E) (stale : StoreError) : Program E EventV1 :=
  let d := r.event.eventDigest
  .guarded (snapshotIntegrityRecord (E.integrity.pendingBytes r.pending)) <|
  .transaction (.loadIntegrityLineage d) fun
  | .error e => .done (.error e)
  | .ok lineage => .transaction (.loadIntegrityEvent d) fun
    | .error e => .done (.error e)
    | .ok retained =>
      match lineage with
      | none => .done (.error stale)
      | some l =>
        if r.expectedHead = r.event.prevDigest ∧ retained = some r.event ∧
            l.pending = r.pending then
          .transaction (.loadIntegrityPredecessorLineages d) fun
          | .error e => .done (.error e)
          | .ok previous => .read fun t => .done do
              verifyQualifiedLineage E t l previous.1 (some r.bundles)
              return r.event
        else if retained = some r.event then
          .done (.error (conflict "retained event has a different pending integrity dossier"))
        else .done (.error stale)

/-- `append_pending_integrity_event`. -/
def appendPendingIntegrityEvent (r : PendingRequest E) : Program E EventV1 :=
  .transaction .resolveAcceptanceMode fun
  | .error e => .done (.error e)
  | .ok mode =>
    if r.pending.acceptanceMode ≠ mode then
      .done (.error (storeError ("pending transition acceptance mode differs from the " ++
        "enrolled acceptance profile")))
    else .guarded r.validate <| .transaction (.appendVerifiedEvent r.append) fun
    | .ok e => .done (.ok e)
    | .error e => if e.kind = .staleHead then r.reconcile e else .done (.error e)

/-- `append`. -/
def append (e : EventV1) (expectedHead : Digest) : Program E EventV1 :=
  .guarded (validateAppendRequest E e) <| .guarded
    (refuseIf (e.kind ∈ protectedEvidenceEventKindsV1)
      (storeError (e.kind.text ++ " requires a dedicated evidence-retaining append"))) <|
  .transaction (.appendVerifiedEvent ⟨e, expectedHead, none, none⟩) .done

/-- `append_evidence_event`. -/
def appendEvidenceEvent (e : EventV1) (expectedHead : Digest) (s : E.Staging) :
    Program E EventV1 :=
  .guarded (validateAppendRequest E e) <| .guarded
    (refuseIf (e.kind ∉ protectedEvidenceEventKindsV1 ∨ e.kind = .verifierReceiptAdmitted)
      (storeError "append_evidence_event requires a non-receipt protected event")) <|
  .transaction (.appendVerifiedEvent ⟨e, expectedHead, some s, none⟩) .done

/-- `append_receipt_admission`. -/
def appendReceiptAdmission (e : EventV1) (expectedHead : Digest) (s : E.Staging) :
    Program E EventV1 :=
  .guarded (validateAppendRequest E e) <| .guarded
    (refuseIf (e.kind ≠ .verifierReceiptAdmitted)
      (storeError "append_receipt_admission requires verifier_receipt_admitted")) <|
  .transaction (.appendVerifiedEvent ⟨e, expectedHead, some s, none⟩) .done

/-- However its transactions are interleaved, a program takes part in a run. -/
theorem Exec.reaches {ρ : Type} {i : ℕ} {s s' : Sys E} {p : Program E ρ}
    {r : Except StoreError ρ} {own : List (E.Db × E.Db)} (h : Exec i s p r own s') :
    Reaches s s' := by
  induction h with
  | done => exact .refl
  | transaction h hs _ ih => exact (h.step hs).trans ih
  | read h _ ih => exact h.trans ih

/-! ## Executions -/

/-- The connections after a commit that counts as one change. -/
def commitConns (conns : ℕ → Conn) (i : ℕ) (published : Bool) (j : ℕ) : Conn :=
  let c := conns j
  if j = i then
    let signals : Signals := ⟨c.signals.totalChanges + 1, c.signals.dataVersion⟩
    ⟨c.maxVaultBytes, signals, some (if published then signals else c.signals)⟩
  else ⟨c.maxVaultBytes, ⟨c.signals.totalChanges, c.signals.dataVersion + 1⟩, c.cache⟩

theorem commitConns_committed (conns : ℕ → Conn) (i : ℕ) (published : Bool) :
    Committed conns (commitConns conns i published) i published where
  ceiling j := by unfold commitConns; split_ifs <;> rfl
  own := by simp [commitConns]
  ownData := by simp [commitConns]
  ownCache := by cases published <;> simp [commitConns]
  foreign j hj := by simp [commitConns, hj]
  foreignTotal j hj := by simp [commitConns, hj]
  foreignCache j hj := by simp [commitConns, hj]

/-- A transaction that SQLite does not interrupt. -/
def Sys.perform {ρ : Type} (s : Sys E) (i : ℕ) (x : Txn E ρ) : Except StoreError ρ × Sys E :=
  match x.precheck E with
  | .error e => (.error e, s)
  | .ok () =>
    match transact E s.tables (s.conns i) x with
    | .error e => (.error e, s.rolledBack i (s.conns i).signals.totalChanges)
    | .ok (.unchanged, r) => (.ok r, s.validated i)
    | .ok (.wrote t published, r) => (.ok r, ⟨t, commitConns s.conns i published⟩)

/-- Performing a transaction is a step. -/
theorem Sys.perform_step {ρ : Type} (s : Sys E) (i : ℕ) (x : Txn E ρ) :
    Step s i x (s.perform i x).1 (s.perform i x).2 := by
  unfold Sys.perform
  split
  · rename_i e h
    exact .invalid h
  · rename_i h
    split
    · rename_i e hx
      exact .refused h hx le_rfl
    · rename_i r hx
      exact .unchanged h hx
    · rename_i t published r hx
      exact .wrote h hx (commitConns_committed _ _ _)

/-- What a transaction that began was refused with. -/
theorem Sys.perform_refused {ρ : Type} {s : Sys E} {i : ℕ} {x : Txn E ρ} {e : StoreError}
    (hpre : x.precheck E = .ok ()) (h : (s.perform i x).1 = .error e) :
    transact E s.tables (s.conns i) x = .error e := by
  unfold Sys.perform at h
  rw [hpre] at h
  dsimp only at h
  split at h
  · rename_i e' hx
    rw [hx, Except.error.inj h]
  · cases h
  · cases h

theorem Reaches.perform {ρ : Type} {s₀ s : Sys E} (h : Reaches s₀ s) (i : ℕ) (x : Txn E ρ) :
    Reaches s₀ (s.perform i x).2 :=
  h.step (s.perform_step i x)

theorem Sys.Reachable.perform {ρ : Type} {s : Sys E} (h : s.Reachable) (i : ℕ) (x : Txn E ρ) :
    (s.perform i x).2.Reachable :=
  h.reaches (Reaches.refl.perform i x)

/-- A program without interruptions or other connections' steps. -/
def Program.run {ρ : Type} (i : ℕ) : Program E ρ → Sys E → Except StoreError ρ × Sys E
  | .done r, s => (r, s)
  | .transaction x next, s => (next (s.perform i x).1).run i (s.perform i x).2
  | .read next, s => (next s.tables).run i s

/-- Running a program is an execution of it. -/
theorem Program.run_exec {ρ : Type} (i : ℕ) (p : Program E ρ) (s : Sys E) :
    ∃ own, Exec i s p (p.run i s).1 own (p.run i s).2 := by
  induction p generalizing s with
  | done r => exact ⟨[], .done⟩
  | transaction x next ih =>
    obtain ⟨own, h⟩ := ih (s.perform i x).1 (s.perform i x).2
    exact ⟨_, .transaction .refl (s.perform_step i x) h⟩
  | read next ih =>
    obtain ⟨own, h⟩ := ih s.tables s
    exact ⟨own, .read .refl h⟩

/-! ## A sample store -/

/-- Integrity primitives that identify a record by its position. -/
def sampleIntegrity : IntegrityPrimitives where
  trustSnapshotId _ := 30
  decisionAttestationId d := d.decision.decisionId + 1
  checkpointAttestationId c := c.checkpoint.checkpointId + 1
  headCheckpointGenesisId _ _ := 31
  missionCheckpointGenesisId _ _ _ := 32
  anchorStatementId b := 800 + BitVec.ofNat 256 b.instanceSequence
  pendingRecordId p := 810 + p.eventDigest
  anchorRecordId a := 820 + a.eventDigest
  candidateRecordId c := 830 + c.eventDigest
  finalizationRecordId f := 840 + f.eventDigest
  authorityBindingId _ := 33
  contentDigest content := BitVec.ofNat 256 (content.map UInt8.toNat).sum
  decisionSignatureValid _ _ := true
  checkpointSignatureValid _ _ := true
  pendingBytes _ := 1
  anchorBytes _ := 1
  candidateBytes _ := 1
  finalizationBytes _ := 1

/-- The sample mission's primitives, with no event at `GENESIS_DIGEST`. -/
def sampleEventPrimitives : Primitives where
  eventId b := BitVec.ofNat 256 (min b.seq 1000 + 1)
  wellFormed _ := true
  trustSnapshotId _ := 20
  leaseNonce _ := 7
  receiptSignatureValid _ _ := true

/-- A store over an unbounded vault that accepts every artifact. -/
def sampleEnv : Env where
  events := sampleEventPrimitives
  integrity := sampleIntegrity
  recovery :=
    { profileId := fun _ => 34
      recoverySignatureValid := fun _ _ => true
      profileBytes := fun _ => 1
      observationBytes := fun _ => 1
      decisionBytes := fun _ => 1 }
  Vault := Unit
  Staging := Unit
  Qualified := Unit
  Bundles := Unit
  Reconstructed := Unit
  decideQualified := inferInstance
  emptyVault := ()
  vaultIsEmpty _ := true
  vaultUsedBytes _ := 0
  vaultForeignKeys _ _ := true
  vaultAdmitsEvent _ _ := .ok ()
  validateRetainedEvidence _ _ := .ok ()
  validateReceiptAdmission _ _ _ _ := .ok ()
  retainArtifacts _ _ _ _ := .ok ()
  verifyEventManifest _ _ := .ok ()
  qualifiedScopes _ := []
  qualifiedBytes _ := 1
  reconstructQualifiedLineage _ _ _ := .ok ()
  validateQualifiedTransients _ _ _ := .ok ()
  modeledProfileBytes _ := 1

def sampleIntegrityTrust : IntegrityTrustStore where
  keys := [(⟨901⟩, ⟨"decider", 1, .integrityDecision⟩), (⟨902⟩, ⟨"checker", 2, .headCheckpoint⟩)]
  revokedKeyIds := []

def sampleProfile : ModeledProfile where
  serviceInstanceId := "service"
  environmentId := "test"
  validationPolicy :=
    { decisionPolicyId := 41
      decisionTimePolicyId := 42
      checkpointTimePolicyId := 43
      anchorPolicyId := 44
      requiredRevocationNamespaces := ["keys"]
      maxDecisionUncertaintySeconds := 0
      maxCheckpointUncertaintySeconds := 0 }
  authorityBinding :=
    { trustSnapshotId := 30
      trustStore := sampleIntegrityTrust
      decisionKeyId := ⟨901⟩
      decisionPrincipalId := "decider"
      checkpointKeyId := ⟨902⟩
      checkpointPrincipalId := "checker" }

theorem evidenceCovers_self (blobs : List ProviderEvidenceBlobV1) :
    evidenceCovers (blobs.map ProviderEvidenceBlobV1.reference) blobs :=
  ⟨fun _ h => h, fun _ h => h⟩

/-- Provider evidence of one byte. -/
def sampleBlob (kind : EvidenceKind) (source : String) (byte : UInt8) :
    ProviderEvidenceBlobV1 where
  evidenceKind := kind
  sourceId := source
  evidenceId := BitVec.ofNat 256 byte.toNat
  content := [byte]

def sampleTime : List ProviderEvidenceBlobV1 :=
  [sampleBlob .trustedTime "a" 1, sampleBlob .trustedTime "b" 2]

def sampleFloorEvidence : ProviderEvidenceBlobV1 := sampleBlob .externalFloor "floor" 3

def sampleRevocation : ProviderEvidenceBlobV1 := sampleBlob .revocationMetadata "keys" 4

def sampleView : RevocationViewV1 where
  revocationNamespace := "keys"
  rootVersion := 1
  version := 1
  snapshotId := 45
  evidence := sampleRevocation.reference
  validFrom := 0
  validUntil := 1000

/-- The `n`th checkpoint of the sample mission as a predecessor, or its genesis. -/
def sampleRef (genesis : Digest) : ℕ → CheckpointRef
  | 0 => ⟨genesis, none, none, none⟩
  | n + 1 => ⟨610 + BitVec.ofNat 256 n, some (611 + BitVec.ofNat 256 n), some "checker", some 30⟩

def sampleHeadFloor (n : ℕ) : HeadCheckpointFloorV1 where
  serviceInstanceId := "service"
  environmentId := "test"
  instanceSequence := (n : ℤ) - 1
  checkpoint := sampleRef 31 n
  missionId := 100
  missionEventSeq := (n : ℤ) - 1
  missionCheckpoint := sampleRef 32 n
  evidence := [sampleFloorEvidence.reference]

def sampleDecision (n : ℕ) (e : EventV1) : IntegrityDecisionV1 where
  decisionId := 600 + BitVec.ofNat 256 n
  serviceInstanceId := "service"
  environmentId := "test"
  missionId := 100
  authorityId := 101
  targetId := 102
  priorGlobalCheckpointSequence := (n : ℤ) - 1
  priorGlobalCheckpoint := sampleRef 31 n
  priorEventSeq := (n : ℤ) - 1
  priorEventDigest := e.prevDigest
  eventKind := e.kind.text
  proposedEventDigest := e.eventDigest
  timeLowerBound := e.decisionTime
  timeUpperBound := e.decisionTime
  timePolicyId := 42
  timeEvidence := sampleTime.map ProviderEvidenceBlobV1.reference
  revocationViews := [sampleView]
  decisionPolicyId := 41
  interval := le_rfl
  namespaces := List.pairwise_singleton _ _

theorem samplePending_covered : evidenceCovers (sampleTime.map ProviderEvidenceBlobV1.reference ++
    [sampleRevocation.reference] ++ [sampleFloorEvidence.reference] ++
    [sampleFloorEvidence.reference]) ([sampleFloorEvidence, sampleRevocation] ++ sampleTime) := by
  decide

/-- The dossier of the `n`th event of the sample mission. -/
def samplePending (n : ℕ) (e : EventV1) : PendingIntegrityTransitionV1 where
  eventDigest := e.eventDigest
  missionId := 100
  eventSeq := n
  instanceSequence := n
  signedDecision := ⟨sampleDecision n e, ⟨901⟩, 0⟩
  decisionTrustStore := sampleIntegrityTrust
  validationPolicy := sampleProfile.validationPolicy
  revocationFloors := [⟨"service", "test", 41, "keys", 1, 1, 45, [sampleFloorEvidence.reference]⟩]
  priorHeadFloor := sampleHeadFloor n
  providerEvidence := [sampleFloorEvidence, sampleRevocation] ++ sampleTime
  acceptanceMode := .modeledUnsigned
  binds := ⟨rfl, rfl, by simp [sampleDecision], by simp [sampleDecision], rfl, rfl⟩
  floors := by simp [revocationFloorsMatch, sampleDecision, sampleView]
  head := ⟨rfl, rfl, rfl, rfl, rfl, rfl⟩
  covered := samplePending_covered

/-- The request that appends the `n`th event. -/
def sampleRequest (n : ℕ) (e : EventV1) : PendingRequest sampleEnv where
  event := e
  expectedHead := e.prevDigest
  pending := samplePending n e
  bundles := ()
  staging := some ()

def sampleRegistration (n : ℕ) (e : EventV1) : AnchorRegistration where
  serviceInstanceId := "service"
  environmentId := "test"
  instanceSequence := n
  previousCheckpoint := sampleRef 31 n
  previousMissionCheckpoint := sampleRef 32 n
  missionId := 100
  authorityId := 101
  targetId := 102
  eventSeq := n
  eventDigest := e.eventDigest
  integrityDecisionId := 600 + BitVec.ofNat 256 n
  integrityDecisionAttestationId := 600 + BitVec.ofNat 256 n + 1
  integrityDecisionPrincipalId := "decider"
  integrityDecisionTrustSnapshotId := 30
  timeLowerBound := e.decisionTime
  timeUpperBound := e.decisionTime
  timePolicyId := 43
  timeEvidence := sampleTime.map ProviderEvidenceBlobV1.reference
  anchorPolicyId := 44

def sampleAnchor (n : ℕ) (e : EventV1) : AnchorStatementRecordV1 where
  pendingRecordId := 810 + e.eventDigest
  eventDigest := e.eventDigest
  previousMissionCheckpoint := sampleRef 32 n
  timeLowerBound := e.decisionTime
  timeUpperBound := e.decisionTime
  timePolicyId := 43
  timeEvidence := sampleTime.map ProviderEvidenceBlobV1.reference
  anchorPolicyId := 44
  anchorStatementId := 800 + BitVec.ofNat 256 n
  registrationRequest := sampleRegistration n e
  providerEvidence := sampleTime
  acceptanceMode := .modeledUnsigned
  covered := evidenceCovers_self _

def sampleCheckpointCandidate (n : ℕ) (e : EventV1) : CheckpointCandidateRecordV1 where
  pendingRecordId := 810 + e.eventDigest
  anchorStatementRecordId := 820 + e.eventDigest
  eventDigest := e.eventDigest
  signedCheckpoint :=
    { checkpoint :=
        { sampleRegistration n e with
          checkpointId := 610 + BitVec.ofNat 256 n
          anchorStatementId := 800 + BitVec.ofNat 256 n
          anchorEvidence := [(sampleBlob .headAnchorReceipt "anchor" 5).reference]
          interval := le_rfl
          globalProvenance := by rintro rfl; exact ⟨rfl, rfl, rfl⟩
          missionProvenance := by rintro rfl; exact ⟨rfl, rfl, rfl⟩ }
      keyId := ⟨902⟩
      signature := 0 }
  checkpointTrustStore := sampleIntegrityTrust
  providerEvidence := [sampleBlob .headAnchorReceipt "anchor" 5]
  acceptanceMode := .modeledUnsigned
  binds := rfl
  covered := evidenceCovers_self [sampleBlob .headAnchorReceipt "anchor" 5]

def sampleFinalization (n : ℕ) (e : EventV1) : FinalizedIntegrityTransitionV1 where
  pendingRecordId := 810 + e.eventDigest
  checkpointCandidateRecordId := 830 + e.eventDigest
  eventDigest := e.eventDigest
  externalHeadFloor := sampleHeadFloor (n + 1)
  providerEvidence := [sampleFloorEvidence]
  acceptanceMode := .modeledUnsigned
  covered := evidenceCovers_self [sampleFloorEvidence]

def sampleRecoveryProfile : BlockedFinalityRecoveryProfileV1 where
  serviceInstanceId := "service"
  environmentId := "test"
  authorityBinding := sampleProfile.authorityBinding
  authorityBindingId := 33
  recoveryKey := ⟨⟨903⟩, "governor", 3⟩
  recoveryPolicyId := 46

/-- The second event's finality is blocked before its anchor. -/
def sampleObservation (n : ℕ) (e : EventV1) : BlockedFinalityObservationV1 where
  profileId := 34
  trustRootId := 30
  serviceInstanceId := "service"
  environmentId := "test"
  missionId := 100
  authorityId := 101
  targetId := 102
  eventDigest := e.eventDigest
  eventSeq := n
  instanceSequence := n
  pendingRecordId := 810 + e.eventDigest
  unresolvedPhase := .localPending
  unresolvedPhaseRecordId := 810 + e.eventDigest
  blockedOperation := "anchor"
  blockedReasonCode := "unavailable"
  attemptOrdinal := 1
  timeBundleId := 47
  timeLowerBound := 50
  timeUpperBound := 50
  timePolicyId := 42
  timeEvidence := []
  observationId := 48
  ordinalPos := Nat.one_pos

def sampleSeal (e : EventV1) : SignedGovernedRecoveryDecisionV1 where
  decision :=
    { profileId := 34
      trustRootId := 30
      serviceInstanceId := "service"
      environmentId := "test"
      missionId := 100
      authorityId := 101
      targetId := 102
      eventDigest := e.eventDigest
      pendingRecordId := 810 + e.eventDigest
      blockedObservationId := 48
      unresolvedPhase := .localPending
      unresolvedPhaseRecordId := 810 + e.eventDigest
      blockedOperation := "anchor"
      blockedReasonCode := "unavailable"
      attemptOrdinal := 1
      disposition := .instanceSealed
      recoveryPolicyId := 46
      recoveryPrincipalId := "governor"
      decisionId := 49 }
  keyId := ⟨903⟩
  signature := 0

def sampleFirst : EventV1 :=
  sampleEvent 0 10 (.authorityAdmitted sampleAdmission sampleGrant ⟨105⟩ 0)

def sampleSecond : EventV1 := sampleEvent 1 11 (.missionOpened sampleSnapshot)

/-- Two connections have opened a fresh store. -/
def sampleOpened : Sys sampleEnv where
  tables := sampleEnv.freshDb
  conns _ := ⟨2 ^ 30, ⟨0, 0⟩, none⟩

/-- The store is enrolled and the first event is finalized. -/
def sampleFinalized : Sys sampleEnv :=
  let s := (sampleOpened.perform 0 (.enrollModeledIntegrity sampleProfile)).2
  let s := (s.perform 1 (.enrollBlockedFinalityRecovery sampleRecoveryProfile)).2
  let s := (s.perform 0 (.appendVerifiedEvent (sampleRequest 0 sampleFirst).append)).2
  let s := (s.perform 0 (.retainIntegrityAnchorStatement (sampleAnchor 0 sampleFirst) ())).2
  let s := (s.perform 1 (.retainIntegrityCheckpointCandidate
    (sampleCheckpointCandidate 0 sampleFirst) ())).2
  (s.perform 0 (.finalizeIntegrityTransition (sampleFinalization 0 sampleFirst) ())).2

/-- Then the second event is appended. -/
def samplePended : Sys sampleEnv :=
  (sampleFinalized.perform 1 (.appendVerifiedEvent (sampleRequest 1 sampleSecond).append)).2

/-- Then the instance is sealed. -/
def sampleSealed : Sys sampleEnv :=
  let s := (samplePended.perform 0
    (.retainBlockedFinalityObservation (sampleObservation 1 sampleSecond))).2
  (s.perform 1 (.retainGovernedRecoveryDecision (sampleSeal sampleSecond))).2

theorem sampleFinalized_reachable : sampleFinalized.Reachable := by
  have h : sampleOpened.Reachable := ⟨sampleOpened, rfl, fun _ => rfl, .refl⟩
  exact (((((h.perform _ _).perform _ _).perform _ _).perform _ _).perform _ _).perform _ _

theorem samplePended_reachable : samplePended.Reachable :=
  sampleFinalized_reachable.perform _ _

theorem sampleSealed_reachable : sampleSealed.Reachable :=
  (samplePended_reachable.perform _ _).perform _ _

end Etzio
