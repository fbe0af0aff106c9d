import Etzio.StoreCommits

/-!
# Runs of the store

What holds over whole runs, whatever the connections do and however their transactions
are interleaved.

A connection that skips the replay because its change signals match would have been
allowed by the replay (`validation_cache_refines_replay`) : a remembered key is never
ahead of the signals, every foreign commit and every own row change moves them on, and a
write that publishes its key leaves accepted tables. So along a run the tables are the
initial ones or accepted, and what the committed writes keep holds in every state
(`Reaches.invariant`). The order of the integrity records follows
(`integrity_order_invariant`).
-/

open CheckedRun Rows

namespace Etzio

variable {E : Env}

/-! ## Validation caches -/

section Caches

/-- The keys hold, a remembered key is never ahead of its connection's signals, and one
that matches them says that the tables are accepted. -/
structure CacheSound (s : Sys E) : Prop where
  keys : s.tables.Keys
  behind : ∀ i k, (s.conns i).cache = some k →
    k.totalChanges ≤ (s.conns i).signals.totalChanges ∧
      k.dataVersion ≤ (s.conns i).signals.dataVersion
  accepted : ∀ i, (s.conns i).cache = some (s.conns i).signals → Accepted s.tables

variable {s s' : Sys E} {ρ : Type} {i : ℕ} {x : Txn E ρ} {r : Except StoreError ρ}

theorem CacheSound.of_opened (hk : s.tables.Keys) (ho : s.Opened) : CacheSound s where
  keys := hk
  behind j k hk := by simp [ho j] at hk
  accepted j hj := by simp [ho j] at hj

/-- A cached authentication is the replay. -/
theorem CacheSound.authenticate_eq (h : CacheSound s) (i : ℕ) :
    authenticate E s.tables (s.conns i) = validateIntegrityStateUncached E s.tables := by
  unfold authenticate
  split_ifs with hc
  · exact (h.accepted i hc).symm
  · rfl

theorem CacheSound.accepted_of_transact (h : CacheSound s) {c : Commit E × ρ}
    (hx : transact E s.tables (s.conns i) x = .ok c) : Accepted s.tables := by
  obtain ⟨ha, -⟩ := transact_eq_ok.mp hx
  rw [h.authenticate_eq] at ha
  exact ha

theorem CacheSound.rolledBack (h : CacheSound s) (n : ℕ) : CacheSound (s.rolledBack i n) where
  keys := h.keys
  behind j k hjk := by
    by_cases hj : j = i
    · subst hj
      simp at hjk
    · rw [s.rolledBack_of_ne n hj] at hjk ⊢
      exact h.behind j k hjk
  accepted j hjk := by
    by_cases hj : j = i
    · subst hj
      simp at hjk
    · rw [s.rolledBack_of_ne n hj] at hjk
      exact h.accepted j hjk

theorem CacheSound.validated (h : CacheSound s) (ha : Accepted s.tables) :
    CacheSound (s.validated i) where
  keys := h.keys
  behind j k hjk := by
    by_cases hj : j = i
    · subst hj
      obtain rfl : (s.conns j).signals = k := by simpa using hjk
      simp
    · rw [s.validated_of_ne hj] at hjk ⊢
      exact h.behind j k hjk
  accepted _ _ := ha

/-- After a commit no remembered key is ahead. -/
theorem CacheSound.committed (h : CacheSound s) {t : E.Db} {conns : ℕ → Conn} {published : Bool}
    (hc : Committed s.conns conns i published) (hk : t.Keys) (ha : Accepted t) :
    CacheSound ⟨t, conns⟩ where
  keys := hk
  behind j k hjk := by
    dsimp only at hjk ⊢
    by_cases hj : j = i
    · subst hj
      have hown := hc.own
      have hdata := hc.ownData
      rw [hc.ownCache] at hjk
      split_ifs at hjk
      · obtain rfl := Option.some.inj hjk
        exact ⟨le_rfl, le_rfl⟩
      · obtain rfl := Option.some.inj hjk
        exact ⟨hown.le, hdata.ge⟩
    · rw [hc.foreignCache j hj] at hjk
      obtain ⟨ht, hd⟩ := h.behind j k hjk
      exact ⟨ht.trans (hc.foreignTotal j hj).ge, hd.trans (hc.foreign j hj).le⟩
  accepted _ _ := ha

/-- Every step keeps the caches sound. -/
theorem CacheSound.step (h : CacheSound s) (hs : Step s i x r s') : CacheSound s' := by
  cases hs with
  | invalid => exact h
  | refused => exact h.rolledBack _
  | interrupted => exact h.rolledBack _
  | unchanged _ hx => exact h.validated (h.accepted_of_transact hx)
  | wrote _ hx hc =>
    obtain ⟨hk, ha⟩ := Txn.body_accepted h.keys (h.accepted_of_transact hx)
      (transact_eq_ok.mp hx).2
    exact h.committed hc hk ha

/-- Another process commits tables of its own, past the store's checks : every
connection sees its data version move. -/
structure ForeignCommit (conns conns' : ℕ → Conn) : Prop where
  data : ∀ j, (conns j).signals.dataVersion < (conns' j).signals.dataVersion
  total : ∀ j, (conns' j).signals.totalChanges = (conns j).signals.totalChanges
  cache : ∀ j, (conns' j).cache = (conns j).cache

/-- After a foreign commit no remembered key matches. -/
theorem CacheSound.foreign (h : CacheSound s) {t : E.Db} {conns : ℕ → Conn} (hk : t.Keys)
    (hc : ForeignCommit s.conns conns) : CacheSound ⟨t, conns⟩ where
  keys := hk
  behind j k hjk := by
    dsimp only at hjk ⊢
    rw [hc.cache] at hjk
    obtain ⟨ht, hd⟩ := h.behind j k hjk
    exact ⟨ht.trans (hc.total j).ge, hd.trans (hc.data j).le⟩
  accepted j hjk := by
    dsimp only at hjk
    rw [hc.cache] at hjk
    obtain ⟨-, hd⟩ := h.behind j _ hjk
    exact absurd (hc.data j) (not_lt.mpr hd)

/-- A run in which foreign commits happen between the transactions. -/
inductive ForeignReaches (s : Sys E) : Sys E → Prop
  | refl : ForeignReaches s s
  | step {s' s'' : Sys E} {ρ : Type} {i : ℕ} {x : Txn E ρ} {r : Except StoreError ρ}
      (h : ForeignReaches s s') (hs : Step s' i x r s'') : ForeignReaches s s''
  | foreign {s' : Sys E} {t : E.Db} {conns : ℕ → Conn} (h : ForeignReaches s s') (hk : t.Keys)
      (hc : ForeignCommit s'.conns conns) : ForeignReaches s ⟨t, conns⟩

theorem Reaches.foreignReaches (h : Reaches s s') : ForeignReaches s s' := by
  induction h with
  | refl => exact .refl
  | step _ hs ih => exact ih.step hs

theorem CacheSound.reaches (h : CacheSound s) (hr : ForeignReaches s s') : CacheSound s' := by
  induction hr with
  | refl => exact h
  | step _ hs ih => exact ih.step hs
  | foreign _ hk hc ih => exact ih.foreign hk hc

end Caches

/-- Over any run of any connections, also with foreign commits in between, the cache
changes nothing : what a committed write leaves of accepted tables the replay accepts
again, and every transaction behaves as after a full replay. -/
theorem validation_cache_refines_replay {s₀ s : Sys E} (hk : s₀.tables.Keys) (ho : s₀.Opened)
    (hr : ForeignReaches s₀ s) :
    (∀ (cap : ℕ) (t t' : E.Db) (ρ : Type) (x : Txn E ρ) (published : Bool) (y : ρ), t.Keys →
      validateIntegrityStateUncached E t = .ok () →
      x.body E cap t = .ok (.wrote t' published, y) →
      validateIntegrityStateUncached E t' = .ok ()) ∧
    ∀ (i : ℕ) (ρ : Type) (x : Txn E ρ), transact E s.tables (s.conns i) x =
      (do
        validateIntegrityStateUncached E s.tables
        x.body E (s.conns i).maxVaultBytes s.tables) := by
  refine ⟨fun cap t t' ρ x published y hkt hacc hx => (Txn.body_accepted hkt hacc hx).2,
    fun i ρ x => ?_⟩
  have hsound := (CacheSound.of_opened hk ho).reaches hr
  rw [transact, hsound.authenticate_eq i]

/-- The pending append of a second event publishes an accepted state, and a later load answers with
the cache as it does with the replay. -/
theorem validation_cache_refines_replay_sample : ∃ t' y,
    (Txn.appendVerifiedEvent (sampleRequest 1 sampleSecond).append).body sampleEnv (2 ^ 30)
      sampleFinalized.tables = .ok (.wrote t' true, y) ∧
    validateIntegrityStateUncached sampleEnv t' = .ok () ∧
    transact sampleEnv sampleFinalized.tables (sampleFinalized.conns 0) (.load 100) =
      (do validateIntegrityStateUncached sampleEnv sampleFinalized.tables
          (Txn.load 100).body sampleEnv (sampleFinalized.conns 0).maxVaultBytes
            sampleFinalized.tables) := by
  obtain ⟨s₀, hfresh, ho, hr⟩ := sampleFinalized_reachable
  have hk : s₀.tables.Keys := by
    rw [hfresh]
    constructor <;> exact List.nodup_nil
  obtain ⟨hwrites, htransact⟩ := validation_cache_refines_replay hk ho hr.foreignReaches
  have hk' := ((CacheSound.of_opened hk ho).reaches hr.foreignReaches).keys
  have hacc : Accepted sampleFinalized.tables := by decide +kernel
  have hwrote : (match (Txn.appendVerifiedEvent (sampleRequest 1 sampleSecond).append).body
      sampleEnv (2 ^ 30) sampleFinalized.tables with
    | .ok (.wrote _ true, _) => true
    | _ => false) = true := by decide +kernel
  split at hwrote
  · rename_i t' y hx
    exact ⟨t', y, hx, hwrites _ _ _ _ _ _ _ hk' hacc hx, htransact 0 _ (.load 100)⟩
  · cases hwrote

/-! ## Invariants of a run -/

section Runs

variable {s s' : Sys E} {ρ : Type} {i : ℕ} {x : Txn E ρ} {r : Except StoreError ρ}

/-- A step leaves the tables alone or commits a write on accepted tables. -/
theorem Step.written (h : CacheSound s) (hs : Step s i x r s') :
    s'.tables = s.tables ∨ ∃ reply published, r = .ok reply ∧ Accepted s.tables ∧
      x.body E (s.conns i).maxVaultBytes s.tables = .ok (.wrote s'.tables published, reply) := by
  rcases hs.tables with heq | ⟨reply, published, rfl, hx⟩
  · exact .inl heq
  · exact .inr ⟨reply, published, rfl, h.accepted_of_transact hx, (transact_eq_ok.mp hx).2⟩

/-- What every committed write on accepted tables keeps holds along a run. -/
theorem Reaches.invariant {P : E.Db → Prop}
    (hstep : ∀ {σ : Type} {y : Txn E σ} {cap : ℕ} {t t' : E.Db} {published : Bool} {reply : σ},
      t.Keys → Accepted t → P t → y.body E cap t = .ok (.wrote t' published, reply) → P t')
    (h : CacheSound s) (hp : P s.tables) (hr : Reaches s s') : P s'.tables := by
  induction hr with
  | refl => exact hp
  | step hr hs ih =>
    have hsound := h.reaches hr.foreignReaches
    rcases hs.written hsound with heq | ⟨reply, published, -, hacc, hx⟩
    · rw [heq]
      exact ih
    · exact hstep hsound.keys hacc ih hx

theorem Env.freshDb_keys (E : Env) : E.freshDb.Keys := by
  constructor <;> exact List.nodup_nil

theorem Sys.Reachable.cacheSound (h : s.Reachable) : CacheSound s := by
  obtain ⟨s₀, hfresh, ho, hr⟩ := h
  have hk : s₀.tables.Keys := hfresh ▸ E.freshDb_keys
  exact (CacheSound.of_opened hk ho).reaches hr.foreignReaches

/-- An invariant of the committed writes that a fresh store has holds in every
reachable state. -/
theorem Sys.Reachable.invariant {P : E.Db → Prop}
    (hstep : ∀ {σ : Type} {y : Txn E σ} {cap : ℕ} {t t' : E.Db} {published : Bool} {reply : σ},
      t.Keys → Accepted t → P t → y.body E cap t = .ok (.wrote t' published, reply) → P t')
    (hfresh : P E.freshDb) (h : s.Reachable) : P s.tables := by
  obtain ⟨s₀, hs₀, ho, hr⟩ := h
  have hk : s₀.tables.Keys := hs₀ ▸ E.freshDb_keys
  exact hr.invariant hstep (CacheSound.of_opened hk ho) (hs₀ ▸ hfresh)

/-- A reachable store is fresh or accepted. -/
theorem Sys.Reachable.accepted (h : s.Reachable) :
    s.tables = E.freshDb ∨ Accepted s.tables :=
  h.invariant (P := fun t => t = E.freshDb ∨ Accepted t)
    (fun hk hacc _ hx => .inr (Txn.body_accepted hk hacc hx).2) (.inl rfl)

/-- A reachable enrolled store is accepted. -/
theorem Sys.Reachable.modeledAccepted (h : s.Reachable) {p : ModeledProfile}
    (hp : s.tables.profile = .modeled p) : ModeledAccepted s.tables p := by
  rcases h.accepted with hfresh | hacc
  · rw [hfresh] at hp
    cases hp
  · exact (accepted_modeled h.cacheSound.keys hp).mp hacc

end Runs

/-! ## The order of the integrity records -/

/-- The integrity records of an enrolled store are in order. -/
structure IntegrityOrder (t : E.Db) : Prop where
  /-- Every event has exactly one pending record, and there are no others. -/
  pending : ∀ e ∈ t.events, (t.pending.filter fun p => p.eventDigest = e.digest).length = 1
  count : t.pending.length = t.events.length
  /-- The instance sequences count the pending records. -/
  sequence : t.instanceOrder.map PendingRow.instanceSequence = List.range t.pending.length
  finalized : t.finalizations.map FinalizationRow.eventDigest ⊆
    t.candidates.map CandidateRow.eventDigest
  candidates : t.candidates.map CandidateRow.eventDigest ⊆ t.anchors.map AnchorRow.eventDigest
  anchors : t.anchors.map AnchorRow.eventDigest ⊆ t.pending.map PendingRow.eventDigest
  /-- The finalized transitions are a prefix of the instance sequence. -/
  finalizedPrefix : ∀ p ∈ t.pending,
    t.IsFinalized p.eventDigest ↔ p.instanceSequence < t.finalizations.length
  /-- At most one transition is open. -/
  unresolved : t.unresolved.length ≤ 1

theorem Structured.sequence_eq {t : E.Db} (hk : t.Keys) (hs : Structured t) :
    t.instanceOrder.map PendingRow.instanceSequence = List.range t.pending.length := by
  have hlen : t.instanceOrder.length = t.pending.length := length_orderBy
  refine List.ext_getElem (by simp [hlen]) fun n hn _ => ?_
  rw [List.length_map] at hn
  rw [List.getElem_map, List.getElem_range]
  have hsplit : t.instanceOrder =
      t.instanceOrder.take n ++ t.instanceOrder[n] :: t.instanceOrder.drop (n + 1) := by
    rw [List.getElem_cons_drop, List.take_append_drop]
  rw [hs.instanceSequence_eq hk hsplit, List.length_take]
  omega

/-- The only pending record of a retained event. -/
theorem Structured.pending_filter {t : E.Db} (hk : t.Keys) (hs : Structured t) {e : EventRow}
    (he : e ∈ t.events) : (t.pending.filter fun p => p.eventDigest = e.digest).length = 1 := by
  obtain ⟨p, hp, hd, -⟩ := hs.event e he
  have hcount : (t.pending.map PendingRow.eventDigest).count e.digest = 1 :=
    List.count_eq_one_of_mem hk.pendingDigest (List.mem_map.mpr ⟨p, hp, hd⟩)
  rw [List.count, List.countP_map, List.countP_eq_length_filter] at hcount
  exact hcount

theorem Structured.integrityOrder {t : E.Db} (hk : t.Keys) (hs : Structured t) :
    IntegrityOrder t where
  pending _ he := hs.pending_filter hk he
  count := hs.count.symm
  sequence := hs.sequence_eq hk
  finalized d hd := by
    obtain ⟨f, hf, rfl⟩ := List.mem_map.mp hd
    exact List.mem_map.mpr (hs.finalizationParent f hf)
  candidates d hd := by
    obtain ⟨c, hc, rfl⟩ := List.mem_map.mp hd
    exact List.mem_map.mpr (hs.candidateParent c hc)
  anchors d hd := by
    obtain ⟨a, ha, rfl⟩ := List.mem_map.mp hd
    exact List.mem_map.mpr (hs.anchorParent a ha)
  finalizedPrefix _ hp := hs.isFinalized_iff hk hp
  unresolved := by
    rcases hs.order_cases hk with ⟨hu, -⟩ | ⟨init, r, -, hu, -⟩
    · simp [hu]
    · simp [hu]

/-- In every reachable state of an enrolled store the integrity records are in order. -/
theorem integrity_order_invariant {s : Sys E} (h : s.Reachable)
    (hp : s.tables.profile ≠ .legacy) : IntegrityOrder s.tables := by
  cases hprofile : s.tables.profile with
  | legacy => exact absurd hprofile hp
  | modeled p => exact (h.modeledAccepted hprofile).structured.integrityOrder h.cacheSound.keys

/-- One transition finalized and one pending. -/
theorem integrity_order_invariant_sample : samplePended.tables.profile ≠ .legacy ∧
    samplePended.tables.pending.length = 2 ∧ IntegrityOrder samplePended.tables :=
  ⟨by decide +kernel, by decide +kernel,
    integrity_order_invariant samplePended_reachable (by decide +kernel)⟩

end Etzio
