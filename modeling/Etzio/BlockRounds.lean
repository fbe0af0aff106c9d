import Etzio.FailedAppends

/-!
# Rounds of blocks and retries

A governed facade captures each block of an advance as an observation, and it tries again
only what an authorized retry answers. `BlockRounds` is the law of these rounds : the
attempts of a transition are numbered from 1, and each that another has followed was
answered. The counter, the answer and the phase are read at different points of an
operation ; `ends_requireRecoveryAuthorization` and `visits_retainBlockedObservation` say
what each point leaves for the next.

`FacadeOp.keepsRounds` keeps the law wherever an operation stops, `FacadeOp.unanswered`
says that none goes past a block without an answer, and `governed_block_rounds` puts them
together over whole runs with crashes.
-/

open CheckedRun Interaction Rows

namespace Etzio

variable {E : Env}

/-! ## The law of the rounds -/

/-- The attempts of each transition are numbered from 1, and every one that another has
followed was answered by an authorized retry. -/
structure BlockRounds (t : E.Db) : Prop where
  ordinals : ∀ d, (t.observationRows d).map ObservationRow.attemptOrdinal =
    List.range' 1 (t.observationRows d).length
  answered : ∀ d, ∀ o ∈ (t.observationRows d).dropLast,
    t.dispositionOf o.observationId = some .retryAuthorized

/-- The latest attempt was answered by an authorized retry, or there is none. -/
def LatestAnswered (t : E.Db) (d : Digest) : Prop :=
  ∀ o, t.latestObservation d = some o → t.dispositionOf o.observationId = some .retryAuthorized

section Rounds

variable {t t' : E.Db} {d : Digest}

theorem BlockRounds.congr (h : BlockRounds t) (ho : t'.observations = t.observations)
    (hd : t'.decisions = t.decisions) : BlockRounds t' := by
  constructor
  · intro d
    rw [Tables.observationRows, ho]
    exact h.ordinals d
  · intro d o hmem
    rw [Tables.observationRows, ho] at hmem
    rw [Tables.dispositionOf, hd]
    exact h.answered d o hmem

theorem BlockRounds.decided {signed : SignedGovernedRecoveryDecisionV1} (h : BlockRounds t)
    (hw : DecisionWritten signed t t') : BlockRounds t' := by
  have ho : t'.observations = t.observations := by rw [hw.eq]
  constructor
  · intro d
    rw [Tables.observationRows, ho]
    exact h.ordinals d
  · intro d o hmem
    rw [Tables.observationRows, ho] at hmem
    exact hw.dispositionOf_of_some (h.answered d o hmem)

/-- The next attempt starts a round once the latest one was answered. -/
theorem BlockRounds.observed {o : BlockedFinalityObservationV1} (h : BlockRounds t)
    (hw : ObservationWritten o t t') (hans : LatestAnswered t o.eventDigest)
    (hnext : o.attemptOrdinal = (t.observationRows o.eventDigest).length + 1) :
    BlockRounds t' := by
  have hdisp (i : Digest) : t'.dispositionOf i = t.dispositionOf i := by rw [hw.eq]; rfl
  constructor
  · intro d
    by_cases hd : d = o.eventDigest
    · subst hd
      rw [hw.observationRows_self, List.map_append, h.ordinals, List.length_append,
        List.length_singleton, List.range'_concat]
      simp [hnext, Nat.add_comm]
    · rw [hw.observationRows_of_ne hd]
      exact h.ordinals d
  · intro d x hx
    rw [hdisp]
    by_cases hd : d = o.eventDigest
    · subst hd
      rw [hw.observationRows_self, List.dropLast_concat] at hx
      -- The rows before the new one end with the latest, which was answered.
      cases hlast : t.latestObservation o.eventDigest with
      | none =>
        rw [Tables.latestObservation, List.getLast?_eq_none_iff] at hlast
        rw [hlast] at hx
        exact absurd hx List.not_mem_nil
      | some last =>
        obtain ⟨init, hinit⟩ := List.getLast?_eq_some_iff.mp hlast
        have hold := h.answered o.eventDigest
        rw [hinit, List.dropLast_concat] at hold
        rw [hinit] at hx
        rcases List.mem_append.mp hx with hx | hx
        · exact hold x hx
        · rw [List.mem_singleton.mp hx]
          exact hans last hlast
    · rw [hw.observationRows_of_ne hd] at hx
      exact h.answered d x hx

end Rounds

/-! ## The authorization of an attempt -/

section Authorization

variable {F : Facade E} {i : ℕ} {s s' : Sys E} {l : IntegrityLineageV1}

/-- The observations of an event are its rows. -/
theorem blockedObservations_rows {t : E.Db} {d : Digest} {os : List BlockedFinalityObservationV1}
    (h : blockedObservations E t d = .ok os) :
    os = (t.observationRows d).map ObservationRow.record ∧
      ∀ o ∈ t.observationRows d, o.record.attemptOrdinal = o.attemptOrdinal ∧
        o.record.observationId = o.observationId := by
  unfold blockedObservations at h
  split_ifs at h with hnil
  · rw [hnil]
    exact ⟨(Except.ok.inj h).symm, by simp⟩
  · obtain ⟨profile, -, h⟩ := bind_eq_ok.mp h
    obtain ⟨x, -, h⟩ := bind_eq_ok.mp h
    obtain ⟨l, -, h⟩ := orRefuse_bind_eq_ok.mp h
    obtain ⟨hchecked, h⟩ := unit_bind_eq_ok.mp h
    refine ⟨(Except.ok.inj h).symm, fun o ho => ?_⟩
    obtain ⟨-, hord, hid, -⟩ := checkObservationRow_index (forM_eq_ok.mp hchecked o ho)
    exact ⟨hord, hid⟩

/-- No error of the store is a block. -/
theorem StoreError.raised_ne_blocked (e : StoreError) (x : IntegrityError) (operation : String) :
    e.raised ≠ .finalityBlocked x operation := by
  unfold StoreError.raised
  split <;> simp

/-- The attempt goes on, or it is blocked. -/
def Proceeds {ρ : Type} (r : Except Raised ρ) : Prop :=
  ∀ e, r = .error e → ∃ x operation, e = .finalityBlocked x operation

theorem not_ends_storeCall_blocked {ρ : Type} {x : Txn E ρ} {e : Raised}
    (he : Proceeds (.error e : Except Raised ρ)) :
    ¬Ends (sequential i) s (storeCall x) (.error e) s' := by
  intro h
  obtain ⟨s₁, y, -, -, hy⟩ := ends_storeCall.mp h
  obtain ⟨z, operation, rfl⟩ := he e rfl
  cases y with
  | ok a => cases hy
  | error z => exact z.raised_ne_blocked _ _ (Except.error.inj hy).symm

/-- A governed facade that reads an unsealed instance. -/
theorem ends_requireUnsealedInstance (hF : F.blockedFinality ≠ none)
    (h : Ends (sequential i) s F.requireUnsealedInstance (.ok ()) s') : ¬s'.tables.Sealed := by
  unfold Facade.requireUnsealedInstance at h
  cases hp : F.blockedFinality with
  | none => exact absurd hp hF
  | some profile =>
    rw [hp] at h
    obtain ⟨b, s₁, h₁, h⟩ := ends_bind_ok.mp h
    obtain ⟨-, hb⟩ := ends_read (q := fun t => .ok (decide t.Sealed)) sequential_reaches
      (fun _ _ => rfl) h₁
    cases b with
    | true => simp at h
    | false =>
      obtain ⟨-, rfl⟩ := ends_pure.mp h
      simpa using hb

/-- An attempt of an unsealed instance goes on, or is blocked again, only if the latest
block was answered by an authorized retry. -/
theorem ends_requireRecoveryAuthorization (hF : F.blockedFinality ≠ none) (hs : CacheSound s)
    (hseal : ¬s.tables.Sealed) {r : Except Raised Unit} (hr : Proceeds r)
    (h : Ends (sequential i) s (F.requireRecoveryAuthorization l) r s') :
    LatestAnswered s.tables l.pending.eventDigest := by
  unfold Facade.requireRecoveryAuthorization at h
  cases hp : F.blockedFinality with
  | none => exact absurd hp hF
  | some profile =>
    rw [hp] at h
    rcases ends_bind.mp h with ⟨os, s₁, h₁, h⟩ | ⟨e, rfl, h₁⟩
    swap
    · exact absurd h₁ (not_ends_storeCall_blocked fun z hz => hr z (by simpa using hz))
    have heq₁ := ends_tables_eq (commits_read fun _ _ => rfl) h₁ hs
    obtain ⟨-, hos⟩ := ends_read (q := fun t => blockedObservations E t _) sequential_reaches
      (fun _ _ => rfl) h₁
    rw [heq₁] at hos
    obtain ⟨rfl, hrows⟩ := blockedObservations_rows hos
    intro o ho
    have hlast : ((s.tables.observationRows l.pending.eventDigest).map
        ObservationRow.record).getLast? = some o.record := by
      rw [List.getLast?_map]
      exact congrArg (Option.map ObservationRow.record) ho
    rw [hlast] at h
    rcases ends_bind.mp h with ⟨signed, s₂, h₂, h⟩ | ⟨e, rfl, h₂⟩
    swap
    · exact absurd h₂ (not_ends_storeCall_blocked fun z hz => hr z (by simpa using hz))
    have hs₁ := hs.reaches (ends_reaches sequential_reaches h₁).foreignReaches
    have heq₂ := (ends_tables_eq (commits_read fun _ _ => rfl) h₂ hs₁).trans heq₁
    obtain ⟨-, hsigned⟩ := ends_read (q := fun t => .ok ((findBy DecisionRow.blockedObservationId
      o.record.observationId t.decisions).map DecisionRow.record)) sequential_reaches
      (fun _ _ => rfl) h₂
    rw [heq₂, (hrows o (List.mem_of_getLast? ho)).2] at hsigned
    cases signed with
    | none =>
      obtain ⟨rfl, -⟩ := ends_raise.mp h
      obtain ⟨x, operation, hx⟩ := hr _ rfl
      cases hx
    | some signed =>
      -- A decision of an unsealed instance authorizes a retry.
      obtain ⟨row, hrow, -⟩ := Option.map_eq_some_iff.mp (Except.ok.inj hsigned)
      rw [Tables.dispositionOf, hrow, Option.map_some]
      cases hd : row.disposition with
      | retryAuthorized => rfl
      | instanceSealed => exact absurd ⟨row, mem_of_findBy hrow, hd⟩ hseal

end Authorization

/-! ## Programs that stop anywhere -/

section Stops

variable {i : ℕ} {s s' : Sys E} {ρ σ : Type}

theorem visits_storeCall {x : Txn E ρ} (h : Visits (sequential i) s (storeCall x) s') :
    s' = s ∨ ∃ y, Step s i x y s' := by
  cases h with
  | here => exact .inl rfl
  | call hc hn =>
    obtain ⟨_, rfl, hstep⟩ := hc
    obtain rfl := visits_done.mp hn
    exact .inr ⟨_, hstep⟩

/-- A program that commits no rows leaves the tables alone wherever it stops. -/
theorem visits_tables_eq {p : FacadeProg E ρ} (hp : Commits NoRows p)
    (h : Visits (sequential i) s p s') (hs : CacheSound s) : s'.tables = s.tables :=
  visits_sequential (I := fun t => t = s.tables) hp (fun _ _ hw _ => hw.elim) h hs rfl

/-- A read and what comes after it. -/
theorem visits_read_bind {x : Txn E σ} {q : E.Db → Except StoreError σ} {f : σ → FacadeProg E ρ}
    (hs : s.Reachable) (hbody : ∀ cap t, x.body E cap t = readOnly E (q t))
    (h : Visits (sequential i) s (storeCall x >>= f) s') :
    s'.tables = s.tables ∨ ∃ a s₁, s₁.Reachable ∧ s₁.tables = s.tables ∧ q s.tables = .ok a ∧
      Visits (sequential i) s₁ (f a) s' := by
  rcases visits_bind h with h | ⟨a, s₁, h₁, h⟩
  · exact .inl (visits_tables_eq (commits_read hbody) h hs.cacheSound)
  · obtain ⟨hr, hq⟩ := ends_read (q := q) sequential_reaches hbody h₁
    have heq := ends_tables_eq (commits_read hbody) h₁ hs.cacheSound
    exact .inr ⟨a, s₁, hs.reaches hr, heq, heq ▸ hq, h⟩

end Stops

/-! ## The capture of a block -/

section Capture

variable {F : Facade E} {i : ℕ} {s s' : Sys E} {l : IntegrityLineageV1}

theorem recordObservation_eq_ok {profile : BlockedFinalityRecoveryProfileV1}
    {p : PendingIntegrityTransitionV1} {phase : BlockablePhase} {id : Digest}
    {operation reasonCode : String} {ordinal : ℕ} {time : QualifiedTimeBundleV1}
    {o : BlockedFinalityObservationV1}
    (h : F.recordObservation profile p phase id operation reasonCode ordinal time = .ok o) :
    o.eventDigest = p.eventDigest ∧ o.attemptOrdinal = ordinal := by
  unfold Facade.recordObservation at h
  split_ifs at h
  obtain ⟨-, h⟩ := unit_bind_eq_ok.mp h
  obtain ⟨-, h⟩ := unit_bind_eq_ok.mp h
  rw [← Except.ok.inj h]
  exact ⟨rfl, rfl⟩

/-- The attempt after those retained. -/
theorem BlockRounds.nextAttemptOrdinal_eq {t : E.Db} {d : Digest} (h : BlockRounds t)
    {os : List BlockedFinalityObservationV1} (hos : blockedObservations E t d = .ok os) :
    nextAttemptOrdinal os = (t.observationRows d).length + 1 := by
  obtain ⟨rfl, hrows⟩ := blockedObservations_rows hos
  have hord := congrArg List.getLast? (h.ordinals d)
  rw [List.getLast?_map, List.getLast?_range'] at hord
  rw [nextAttemptOrdinal, List.getLast?_map]
  cases hlast : (t.observationRows d).getLast? with
  | none =>
    rw [List.getLast?_eq_none_iff] at hlast
    simp [hlast]
  | some o =>
    rw [hlast] at hord
    have hpos : (t.observationRows d).length ≠ 0 := by
      rw [ne_eq, List.length_eq_zero_iff]
      intro hnil
      simp [hnil] at hlast
    have hmem := List.mem_of_getLast? hlast
    simp only [Option.map_some, Option.elim, (hrows o hmem).1]
    simp only [Option.map_some, hpos, if_false, Option.some.injEq] at hord
    omega

/-- A block is retained as the attempt that follows an answered one. -/
theorem visits_retainBlockedObservation (hs : s.Reachable) (hrounds : BlockRounds s.tables)
    (hans : LatestAnswered s.tables l.pending.eventDigest) {x : IntegrityError} {operation : String}
    (h : Visits (sequential i) s (F.retainBlockedObservation l x operation) s') :
    BlockRounds s'.tables := by
  unfold Facade.retainBlockedObservation at h
  cases hp : F.blockedFinality with
  | none =>
    rw [hp] at h
    obtain rfl := visits_done.mp h
    exact hrounds
  | some profile =>
    rw [hp] at h
    rcases visits_read_bind (q := fun t => loadIntegrityLineage E t _) hs (fun _ _ => rfl) h with
      heq | ⟨o, s₁, hs₁, heq₁, hl, h⟩
    · rwa [heq]
    cases o with
    | none =>
      obtain rfl := visits_done.mp h
      rwa [heq₁]
    | some current =>
      have hd := loadIntegrityLineage_eventDigest hl
      dsimp only at h
      by_cases hpend : E.integrity.pendingRecordId current.pending ≠
          E.integrity.pendingRecordId l.pending
      · rw [if_pos hpend] at h
        obtain rfl := visits_done.mp h
        rwa [heq₁]
      rw [if_neg hpend] at h
      cases hphase : current.phase.blockable with
      | none =>
        rw [hphase] at h
        obtain rfl := visits_done.mp h
        rwa [heq₁]
      | some phase =>
        rw [hphase] at h
        rcases visits_read_bind (q := fun t => blockedObservations E t _) hs₁ (fun _ _ => rfl) h
          with heq | ⟨os, s₂, hs₂, heq₂, hos, h⟩
        · rwa [heq, heq₁]
        rcases visits_bind h with h | ⟨time, s₃, h₃, h⟩
        · rwa [visits_tables_eq commits_qualifiedTime h hs₂.cacheSound, heq₂, heq₁]
        have heq₃ := (ends_tables_eq commits_qualifiedTime h₃ hs₂.cacheSound).trans
          (heq₂.trans heq₁)
        have hs₃ := hs₂.reaches (ends_reaches sequential_reaches h₃)
        rcases visits_bind h with h | ⟨o, s₄, h₄, hlast⟩
        · obtain rfl := visits_done.mp h
          rwa [heq₃]
        obtain ⟨ho, rfl⟩ := ends_done.mp h₄
        obtain ⟨hod, hord⟩ := recordObservation_eq_ok (mapError_eq_ok.mp ho.symm)
        rw [heq₁] at hos
        rw [hrounds.nextAttemptOrdinal_eq hos, ← hod] at hord
        rw [← hd, ← hod] at hans
        -- The write of the observation, and nothing after it.
        have hwrite : Visits (sequential i) s₄ (storeCall (.retainBlockedFinalityObservation o))
            s' := by
          rcases visits_bind hlast with h₅ | ⟨_, s₅, h₅, hdone⟩
          · exact h₅
          · obtain rfl := visits_done.mp hdone
            exact h₅.visits
        rcases visits_storeCall hwrite with rfl | ⟨y, hstep⟩
        · rwa [heq₃]
        rcases hstep.written hs₃.cacheSound with heq | ⟨reply, published, -, -, hw⟩
        · rwa [heq, heq₃]
        · cases retainBlockedFinalityObservation_spec hw with
          | wrote hwritten =>
            rw [heq₃] at hwritten
            exact hrounds.observed hwritten hans hord

end Capture

/-! ## Operations keep the rounds -/

/-- The block history is as it was. -/
structure KeepsBlocks (t t' : E.Db) : Prop where
  observations : t'.observations = t.observations
  decisions : t'.decisions = t.decisions

/-- Wherever it stops, the program keeps the rounds. -/
def KeepsRounds {ρ : Type} (p : FacadeProg E ρ) : Prop :=
  ∀ ⦃i : ℕ⦄ ⦃s s' : Sys E⦄, s.Reachable → BlockRounds s.tables → Visits (sequential i) s p s' →
    BlockRounds s'.tables

section Keeps

variable {F : Facade E} {i : ℕ} {s s' : Sys E} {l : IntegrityLineageV1} {ρ σ : Type} {t t' : E.Db}

theorem LaterPhase.keepsBlocks {P : IntegrityLineageV1 → Prop} (h : LaterPhase P t t') :
    KeepsBlocks t t' := by
  obtain ⟨d, phase, l, l', -, h, -⟩ := h
  exact ⟨h.grows.observations, h.grows.decisions⟩

theorem LatestAnswered.congr {d : Digest} (h : LatestAnswered t d) (hk : KeepsBlocks t t') :
    LatestAnswered t' d := by
  intro o ho
  rw [Tables.dispositionOf, hk.decisions]
  rw [Tables.latestObservation, Tables.observationRows, hk.observations] at ho
  exact h o ho

theorem visits_keepsBlocks {p : FacadeProg E ρ} (hp : Commits KeepsBlocks p) (hs : s.Reachable)
    (h : Visits (sequential i) s p s') : KeepsBlocks s.tables s'.tables :=
  visits_sequential (I := fun t => KeepsBlocks s.tables t) hp
    (fun _ _ hw hI => ⟨hw.observations.trans hI.observations, hw.decisions.trans hI.decisions⟩)
    h hs.cacheSound ⟨rfl, rfl⟩

theorem keepsRounds_of_commits {p : FacadeProg E ρ} (hp : Commits KeepsBlocks p) :
    KeepsRounds p := by
  intro i s s' hs hrounds h
  have hk := visits_keepsBlocks hp hs h
  exact hrounds.congr hk.observations hk.decisions

theorem KeepsRounds.bind {p : FacadeProg E σ} {f : σ → FacadeProg E ρ} (hp : KeepsRounds p)
    (hf : ∀ a, KeepsRounds (f a)) : KeepsRounds (p >>= f) := by
  intro i s s' hs hrounds h
  rcases visits_bind h with h | ⟨a, s₁, h₁, h⟩
  · exact hp hs hrounds h
  · exact hf a (hs.reaches (ends_reaches sequential_reaches h₁)) (hp hs hrounds h₁.visits) h

/-- A block that an advance captures was raised by an attempt that went on, or by the
authorization of one. -/
theorem ends_advance_blocked (hF : F.blockedFinality ≠ none) (hs : s.Reachable)
    (hseal : ¬s.tables.Sealed) {x : Raised} (hx : ∃ e operation, x = .finalityBlocked e operation)
    (h : Ends (sequential i) s (do
      F.requireRecoveryAuthorization l
      F.classifiedAdvanceFinality l) (.error x) s') :
    LatestAnswered s.tables l.pending.eventDigest := by
  rcases ends_bind.mp h with ⟨⟨⟩, s₁, h₁, -⟩ | ⟨y, hy, h₁⟩
  · exact ends_requireRecoveryAuthorization hF hs.cacheSound hseal (by simp [Proceeds]) h₁
  · obtain rfl := Except.error.inj hy
    refine ends_requireRecoveryAuthorization hF hs.cacheSound hseal (fun z hz => ?_) h₁
    obtain rfl := Except.error.inj hz
    exact hx

theorem keepsRounds_advanceFinality (hF : F.blockedFinality ≠ none) :
    KeepsRounds (F.advanceFinality l) := by
  intro i s s' hs hrounds h
  unfold Facade.advanceFinality at h
  rcases visits_bind h with h | ⟨⟨⟩, s₁, h₁, h⟩
  · rwa [visits_tables_eq commits_requireUnsealedInstance h hs.cacheSound]
  have hseal := ends_requireUnsealedInstance hF h₁
  have hs₁ := hs.reaches (ends_reaches sequential_reaches h₁)
  have hrounds₁ : BlockRounds s₁.tables := by
    rwa [ends_tables_eq commits_requireUnsealedInstance h₁ hs.cacheSound]
  have hbody : Commits KeepsBlocks (do
      F.requireRecoveryAuthorization l
      F.classifiedAdvanceFinality l) :=
    .bind commits_requireRecoveryAuthorization fun _ =>
      .handle (commits_recoverLineage.mono fun _ _ => LaterPhase.keepsBlocks) fun _ => commits_done
  rcases visits_handle h with h | ⟨x, s₂, h₂, h⟩
  · exact keepsRounds_of_commits hbody hs₁ hrounds₁ h
  have hs₂ := hs₁.reaches (ends_reaches sequential_reaches h₂)
  have hrounds₂ := keepsRounds_of_commits hbody hs₁ hrounds₁ h₂.visits
  unfold Facade.retainBlock at h
  cases x with
  | finalityBlocked e operation =>
    have hans := (ends_advance_blocked hF hs₁ hseal ⟨e, operation, rfl⟩ h₂).congr
      (visits_keepsBlocks hbody hs₁ h₂.visits)
    rcases visits_bind h with h | ⟨_, s₃, h₃, hdone⟩
    · exact visits_retainBlockedObservation hs₂ hrounds₂ hans h
    · obtain rfl := visits_done.mp hdone
      exact visits_retainBlockedObservation hs₂ hrounds₂ hans h₃.visits
  | _ =>
    obtain rfl := visits_done.mp h
    exact hrounds₂

theorem keepsRounds_recoverPendingTransition (hF : F.blockedFinality ≠ none) :
    KeepsRounds F.recoverPendingTransition := by
  refine .bind (keepsRounds_of_commits (commits_read fun _ _ => rfl)) fun o => ?_
  cases o with
  | none => exact keepsRounds_of_commits commits_done
  | some l =>
    exact .bind (keepsRounds_advanceFinality hF) fun _ =>
      .bind (keepsRounds_of_commits commits_requireReached) fun _ =>
        keepsRounds_of_commits commits_done

/-- A pending append writes rows of its event only. -/
theorem commits_appendPending {r : PendingRequest E} :
    Commits KeepsBlocks (ofProgram (appendPendingIntegrityEvent r)) := by
  refine commits_ofProgram_read (q := fun t => .ok (acceptanceMode t)) (fun _ _ => rfl) fun y => ?_
  cases y with
  | error x => exact commits_done
  | ok mode =>
    dsimp only
    split_ifs
    · exact commits_done
    unfold Program.guarded
    split
    · exact commits_done
    refine ⟨fun cap t t' published y hx => ?_, fun y => ?_⟩
    · obtain ⟨u, hu, -, hrows, hcheck, hfk⟩ := appendVerifiedEvent_spec hx
      obtain ⟨⟨rfl, -⟩, -⟩ := by simpa using hu
      have hw := appendRows_modeled (x := r.pending) (b := r.bundles) rfl hrows hcheck hfk
      exact ⟨hw.grows.observations, hw.grows.decisions⟩
    · cases y with
      | ok e => exact commits_done
      | error x =>
        dsimp only
        split_ifs
        · exact commits_reconcile
        · exact commits_done

theorem keepsRounds_appendAndFinalize (hF : F.blockedFinality ≠ none) {e : EventV1}
    {expectedHead : Digest} {staging : Option E.Staging} :
    KeepsRounds (F.appendAndFinalize e expectedHead staging) := by
  refine .bind (keepsRounds_recoverPendingTransition hF) fun _ =>
    .bind (keepsRounds_of_commits (commits_read fun _ _ => rfl)) fun o => ?_
  cases o with
  | some retained => exact keepsRounds_of_commits commits_confirmRetained
  | none =>
    refine .bind (keepsRounds_of_commits commits_latestPredecessors) fun previous =>
      .bind (keepsRounds_of_commits commits_proposePending) fun p =>
      .bind (keepsRounds_of_commits commits_appendPending) fun retained =>
      .bind (keepsRounds_of_commits (commits_read fun _ _ => rfl)) fun o => ?_
    cases o with
    | none => exact keepsRounds_of_commits commits_done
    | some l =>
      exact .bind (keepsRounds_advanceFinality hF) fun _ =>
        .bind (keepsRounds_of_commits commits_requireReached) fun _ =>
          keepsRounds_of_commits commits_done

/-- What an enrollment writes. -/
def EnrollmentWritten (t t' : E.Db) : Prop :=
  ∃ p r, t' = { t with profile := p, recoveryProfile := r }

theorem commits_enroll : Commits EnrollmentWritten F.enroll := by
  refine .bind (commits_storeCall fun cap t t' published y hx => ?_) fun _ =>
    .bind (commits_read fun _ _ => rfl) fun mode => ?_
  · exact ⟨_, _, (enrollModeledIntegrity_wrote hx).eq⟩
  · cases F.blockedFinality with
    | none => exact commits_done
    | some profile =>
      refine .bind (commits_storeCall fun cap t t' published y hx => ?_) fun _ => commits_done
      exact ⟨_, _, (enrollBlockedFinalityRecovery_wrote hx).eq⟩

theorem commits_requireFinalized {W : E.Db → E.Db → Prop} {d : Digest} :
    Commits W (F.requireFinalized d) := by
  refine .bind (commits_read fun _ _ => rfl) fun o => ?_
  cases o with
  | none => exact commits_done
  | some l =>
    dsimp only
    cases l.finalization with
    | none => exact commits_done
    | some f =>
      refine .bind commits_eventForLineage fun e => .bind commits_retainedPredecessors fun _ =>
        .bind commits_done fun _ => ?_
      cases l.checkpointCandidate with
      | none => exact commits_done
      | some c => exact .bind commits_done fun _ => .bind commits_done fun _ => commits_done

/-- An operation of a governed facade keeps the rounds, wherever it stops. -/
theorem FacadeOp.keepsRounds (hF : F.blockedFinality ≠ none) (op : FacadeOp E) :
    KeepsRounds (op.prog F) := by
  have hdone {τ : Type} {p : FacadeProg E τ} (hp : KeepsRounds p) :
      KeepsRounds (do let _ ← p) := hp.bind fun _ => keepsRounds_of_commits commits_done
  cases op with
  | enroll =>
    refine hdone (keepsRounds_of_commits (commits_enroll.mono ?_))
    rintro t t' ⟨p, r, rfl⟩
    exact ⟨rfl, rfl⟩
  | append e d => exact hdone (keepsRounds_appendAndFinalize hF)
  | appendEvidenceEvent e d staging => exact hdone (keepsRounds_appendAndFinalize hF)
  | load m =>
    exact hdone (.bind (keepsRounds_of_commits commits_requireUnsealedInstance) fun _ =>
      .bind (keepsRounds_recoverPendingTransition hF) fun _ =>
        keepsRounds_of_commits (commits_read fun _ _ => rfl))
  | recover => exact hdone (keepsRounds_recoverPendingTransition hF)
  | requireFinalized d => exact hdone (keepsRounds_of_commits commits_requireFinalized)

end Keeps

/-! ## An attempt without an answer -/

/-- No observation and no record of a phase was added. -/
structure Unmoved (t t' : E.Db) : Prop where
  observations : t'.observations = t.observations
  pending : t'.pending = t.pending
  anchors : t'.anchors = t.anchors
  candidates : t'.candidates = t.candidates
  finalizations : t'.finalizations = t.finalizations

section Unanswered

variable {F : Facade E} {i : ℕ} {s s' : Sys E} {l : IntegrityLineageV1} {d : Digest} {t t' : E.Db}

theorem Unmoved.of_eq (h : t' = t) : Unmoved t t' := by
  subst h
  exact ⟨rfl, rfl, rfl, rfl, rfl⟩

theorem Unmoved.trans {t'' : E.Db} (h : Unmoved t t') (h' : Unmoved t' t'') : Unmoved t t'' :=
  ⟨h'.observations.trans h.observations, h'.pending.trans h.pending, h'.anchors.trans h.anchors,
    h'.candidates.trans h.candidates, h'.finalizations.trans h.finalizations⟩

/-- An advance of a transition whose latest block is not answered raises, and it changes
nothing wherever it stops. -/
theorem visits_advanceFinality_unanswered (hF : F.blockedFinality ≠ none) (hs : s.Reachable)
    (hans : ¬LatestAnswered s.tables l.pending.eventDigest)
    (h : Visits (sequential i) s (F.advanceFinality l) s') : s'.tables = s.tables := by
  unfold Facade.advanceFinality at h
  rcases visits_bind h with h | ⟨⟨⟩, s₁, h₁, h⟩
  · exact visits_tables_eq commits_requireUnsealedInstance h hs.cacheSound
  have hseal := ends_requireUnsealedInstance hF h₁
  have hs₁ := hs.reaches (ends_reaches sequential_reaches h₁)
  have heq₁ := ends_tables_eq commits_requireUnsealedInstance h₁ hs.cacheSound
  have hans₁ : ¬LatestAnswered s₁.tables l.pending.eventDigest := heq₁ ▸ hans
  rcases visits_handle h with h | ⟨x, s₂, h₂, h⟩
  · rcases visits_bind h with h | ⟨⟨⟩, s₂, h₂, -⟩
    · rw [visits_tables_eq commits_requireRecoveryAuthorization h hs₁.cacheSound, heq₁]
    · exact absurd (ends_requireRecoveryAuthorization hF hs₁.cacheSound hseal
        (by simp [Proceeds]) h₂) hans₁
  · rcases ends_bind.mp h₂ with ⟨⟨⟩, s₃, h₃, -⟩ | ⟨y, hy, h₃⟩
    · exact absurd (ends_requireRecoveryAuthorization hF hs₁.cacheSound hseal
        (by simp [Proceeds]) h₃) hans₁
    · obtain rfl := Except.error.inj hy
      have heq₂ := (ends_tables_eq commits_requireRecoveryAuthorization h₃ hs₁.cacheSound).trans
        heq₁
      unfold Facade.retainBlock at h
      cases x with
      | finalityBlocked e operation =>
        exact absurd (ends_requireRecoveryAuthorization hF hs₁.cacheSound hseal
          (fun z hz => ⟨e, operation, (Except.error.inj hz).symm⟩) h₃) hans₁
      | _ =>
        obtain rfl := visits_done.mp h
        exact heq₂

theorem not_ends_advanceFinality_unanswered (hF : F.blockedFinality ≠ none) (hs : s.Reachable)
    (hans : ¬LatestAnswered s.tables l.pending.eventDigest) {completed : IntegrityLineageV1} :
    ¬Ends (sequential i) s (F.advanceFinality l) (.ok completed) s' := by
  intro h
  unfold Facade.advanceFinality at h
  obtain ⟨⟨⟩, s₁, h₁, h⟩ := ends_bind_ok.mp h
  have hs₁ := hs.reaches (ends_reaches sequential_reaches h₁)
  have heq₁ := ends_tables_eq commits_requireUnsealedInstance h₁ hs.cacheSound
  rcases ends_handle.mp h with ⟨y, -, hok⟩ | ⟨x, s₂, -, hblock⟩
  · obtain ⟨⟨⟩, s₂, h₂, -⟩ := ends_bind_ok.mp hok
    exact hans (heq₁ ▸ ends_requireRecoveryAuthorization hF hs₁.cacheSound
      (ends_requireUnsealedInstance hF h₁) (by simp [Proceeds]) h₂)
  · exact not_ends_retainBlock_ok hblock

theorem loadUnresolvedIntegrityTransition_some {o : Option IntegrityLineageV1}
    (h : loadUnresolvedIntegrityTransition E t = .ok o)
    (hu : unresolvedIntegrityDigest t = .ok (some d)) :
    ∃ l, o = some l ∧ l.pending.eventDigest = d := by
  unfold loadUnresolvedIntegrityTransition at h
  obtain ⟨x, hx, h⟩ := bind_eq_ok.mp h
  obtain rfl : x = some d := Except.ok.inj (hx.symm.trans hu)
  obtain ⟨y, hl, h⟩ := bind_eq_ok.mp h
  obtain ⟨l, rfl, h⟩ := orRefuse_bind_eq_ok.mp h
  obtain ⟨-, h⟩ := unit_bind_eq_ok.mp h
  exact ⟨l, (Except.ok.inj h).symm, loadIntegrityLineage_eventDigest hl⟩

/-- So does a recovery. -/
theorem recoverPendingTransition_unanswered (hF : F.blockedFinality ≠ none) (hs : s.Reachable)
    (hu : unresolvedIntegrityDigest s.tables = .ok (some d)) (hans : ¬LatestAnswered s.tables d) :
    (∀ s', Visits (sequential i) s F.recoverPendingTransition s' → s'.tables = s.tables) ∧
      ∀ f s', ¬Ends (sequential i) s F.recoverPendingTransition (.ok f) s' := by
  refine ⟨fun s' h => ?_, fun f s' h => ?_⟩
  · rcases visits_read_bind (q := fun t => loadUnresolvedIntegrityTransition E t) hs
      (fun _ _ => rfl) h with heq | ⟨o, s₁, hs₁, heq₁, ho, h⟩
    · exact heq
    obtain ⟨l, rfl, rfl⟩ := loadUnresolvedIntegrityTransition_some ho hu
    rw [← heq₁] at hans ⊢
    rcases visits_bind h with h | ⟨completed, s₂, h₂, -⟩
    · exact visits_advanceFinality_unanswered hF hs₁ hans h
    · exact absurd h₂ (not_ends_advanceFinality_unanswered hF hs₁ hans)
  · obtain ⟨o, s₁, h₁, h⟩ := ends_bind_ok.mp h
    have heq₁ := ends_tables_eq (commits_read fun _ _ => rfl) h₁ hs.cacheSound
    obtain ⟨hr, ho⟩ := ends_read (q := fun t => loadUnresolvedIntegrityTransition E t)
      sequential_reaches (fun _ _ => rfl) h₁
    obtain ⟨l, rfl, rfl⟩ := loadUnresolvedIntegrityTransition_some (heq₁ ▸ ho) hu
    rw [← heq₁] at hans
    obtain ⟨completed, s₂, h₂, -⟩ := ends_bind_ok.mp h
    exact not_ends_advanceFinality_unanswered hF (hs.reaches hr) hans h₂

/-- No operation of a governed facade goes past a block that is not answered. -/
theorem FacadeOp.unanswered (hF : F.blockedFinality ≠ none) (hs : s.Reachable)
    (hu : unresolvedIntegrityDigest s.tables = .ok (some d)) (hans : ¬LatestAnswered s.tables d)
    (op : FacadeOp E) (h : Visits (sequential i) s (op.prog F) s') :
    Unmoved s.tables s'.tables := by
  have hdone {τ : Type} {p : FacadeProg E τ} (h : Visits (sequential i) s (do let _ ← p) s') :
      Visits (sequential i) s p s' := by
    rcases visits_bind h with h | ⟨_, s₁, h₁, h⟩
    · exact h
    · obtain rfl := visits_done.mp h
      exact h₁.visits
  obtain ⟨hstop, hend⟩ := recoverPendingTransition_unanswered (i := i) hF hs hu hans
  have happend {e : EventV1} {head : Digest} {staging : Option E.Staging}
      (h : Visits (sequential i) s (F.appendAndFinalize e head staging) s') :
      Unmoved s.tables s'.tables := by
    rcases visits_bind h with h | ⟨f, s₁, h₁, -⟩
    · exact .of_eq (hstop s' h)
    · exact absurd h₁ (hend f s₁)
  cases op with
  | enroll =>
    refine visits_sequential (I := fun t => Unmoved s.tables t) commits_enroll ?_ (hdone h)
      hs.cacheSound (.of_eq rfl)
    rintro t t' - - ⟨p, r, rfl⟩ hI
    exact hI.trans ⟨rfl, rfl, rfl, rfl, rfl⟩
  | append e head => exact happend (hdone h)
  | appendEvidenceEvent e head staging => exact happend (hdone h)
  | load m =>
    rcases visits_bind (hdone h) with h | ⟨⟨⟩, s₁, h₁, h⟩
    · exact .of_eq (visits_tables_eq commits_requireUnsealedInstance h hs.cacheSound)
    have heq₁ := ends_tables_eq commits_requireUnsealedInstance h₁ hs.cacheSound
    rw [← heq₁] at hu hans ⊢
    obtain ⟨hstop, hend⟩ := recoverPendingTransition_unanswered (i := i) hF
      (hs.reaches (ends_reaches sequential_reaches h₁)) hu hans
    rcases visits_bind h with h | ⟨f, s₂, h₂, -⟩
    · exact .of_eq (hstop s' h)
    · exact absurd h₂ (hend f s₂)
  | recover => exact .of_eq (hstop s' (hdone h))
  | requireFinalized d =>
    exact .of_eq (visits_tables_eq commits_requireFinalized (hdone h) hs.cacheSound)

end Unanswered

/-! ## The retention of an observation -/

/-- The observation was retained between `a` and `b`, when the phase it names was the
highest durable one of its transition. -/
structure RetainedBetween (r : ObservationRow) (a b : Sys E) : Prop where
  added : b.tables.observations = a.tables.observations ++ [r]
  current : ∃ l, loadIntegrityLineage E a.tables r.eventDigest = .ok (some l) ∧
    r.record.unresolvedPhase.lineagePhase = l.phase ∧
    l.phaseRecord E.integrity r.record.unresolvedPhase = some r.record.unresolvedPhaseRecordId

/-- One transaction of the store leads from `a` to `b`. -/
def Transacts (a b : Sys E) : Prop :=
  ∃ (i : ℕ) (ρ : Type) (x : Txn E ρ) (y : Except StoreError ρ), Step a i x y b

section Retention

variable {i : ℕ} {s s' : Sys E} {r : ObservationRow}

/-- Only the retention of an observation adds one. -/
theorem Written.observations {t t' : E.Db} (h : Written t t') :
    t'.observations = t.observations ∨ ∃ o, ObservationWritten o t t' := by
  cases h with
  | observed o h => exact .inr ⟨o, h⟩
  | appendedPending r x p hchecks hp h => exact .inl h.grows.observations
  | phase d phase l l' hl h => exact .inl h.grows.observations
  | appended r v hchecks hp h hret hfk => exact .inl (by rw [h.eq])
  | decided d h => exact .inl (by rw [h.eq])
  | recoveryEnrolled x h => exact .inl (by rw [h.eq])
  | modeledEnrolled p h => exact .inl (by rw [h.eq])
  | qualifiedEnrolled q h => exact .inl (by rw [h.eq])
  | checkpointed c h => exact .inl (by rw [h.eq])

theorem ObservationWritten.retainedBetween {o : BlockedFinalityObservationV1}
    (h : ObservationWritten o s.tables s'.tables) :
    RetainedBetween ⟨o.eventDigest, o.attemptOrdinal, o.observationId, o.unresolvedPhase, o⟩
      s s' := by
  obtain ⟨profile, l, -, hl, hv⟩ := h.enrolled
  unfold validateBlockedObservationLineageV1 at hv
  obtain ⟨-, hv⟩ := unit_bind_eq_ok.mp hv
  obtain ⟨hrecord, hphase⟩ := unit_bind_eq_ok.mp hv
  rw [refuseIf_eq_ok, not_not] at hrecord
  exact ⟨by rw [h.eq], l, hl, by simpa using hphase, hrecord⟩

theorem Step.retainedBetween {ρ : Type} {x : Txn E ρ} {y : Except StoreError ρ} (hs : CacheSound s)
    (h : Step s i x y s') (hr : r ∈ s'.tables.observations) (hnew : r ∉ s.tables.observations) :
    RetainedBetween r s s' := by
  rcases h.written hs with heq | ⟨reply, published, -, -, hx⟩
  · exact absurd (heq ▸ hr) hnew
  · rcases (Txn.body_written hx).observations with heq | ⟨o, hw⟩
    · exact absurd (heq ▸ hr) hnew
    · have hret := hw.retainedBetween
      rw [hret.added] at hr
      rcases List.mem_append.mp hr with hr | hr
      · exact absurd hr hnew
      · rwa [List.mem_singleton.mp hr]

/-- An observation that an operation retains is retained by a transaction among its calls. -/
theorem traced_retainedBetween {ρ : Type} {p : FacadeProg E ρ} {calls : List (Sys E × Sys E)}
    (hs : s.Reachable) (h : Traced (sequential i) s p calls s')
    (hr : r ∈ s'.tables.observations) (hnew : r ∉ s.tables.observations) :
    ∃ c ∈ calls, Transacts c.1 c.2 ∧ RetainedBetween r c.1 c.2 := by
  obtain ⟨c, hmem, hna, hnb⟩ :=
    h.exists_call (Q := fun s => r ∈ s.tables.observations) hnew hr
  obtain ⟨ha, σ, o, y, ho⟩ := h.call_mem hmem
  have hsound := (hs.reaches (visits_reaches sequential_reaches ha)).cacheSound
  cases o with
  | transaction x =>
    obtain ⟨_, rfl, hstep⟩ := ho
    exact ⟨c, hmem, ⟨_, _, _, _, hstep⟩, hstep.retainedBetween hsound hnb hna⟩
  | read =>
    obtain ⟨hsame, -⟩ := ho
    rw [hsame] at hna
    exact absurd hnb hna
  | adapter | qualifiedTime =>
    have hsame : c.1 = c.2 := ho
    rw [hsame] at hna
    exact absurd hnb hna

end Retention

/-! ## Runs of a governed facade -/

/-- A step of a governed run, with its calls : an operation of the facade that ends, raises or
is cut off by a crash, or a decision that the governor has retained. -/
inductive GovernedStep (s s' : Sys E) : List (Sys E × Sys E) → Prop
  | operation (F : Facade E) (hF : F.blockedFinality ≠ none) (i : ℕ) (op : FacadeOp E)
      {calls : List (Sys E × Sys E)} (h : Traced (sequential i) s (op.prog F) calls s') :
      GovernedStep s s' calls
  | decided (i : ℕ) (signed : SignedGovernedRecoveryDecisionV1) (y : Except StoreError Digest)
      (h : Step s i (.retainGovernedRecoveryDecision signed) y s') : GovernedStep s s' [(s, s')]

/-- A sequential run of governed facades over one store, with the states before and after each of
its calls, in order. -/
inductive GovernedReaches (s : Sys E) : List (Sys E × Sys E) → Sys E → Prop
  | refl : GovernedReaches s [] s
  | step {s' s'' : Sys E} {calls last : List (Sys E × Sys E)} (h : GovernedReaches s calls s')
      (hs : GovernedStep s' s'' last) : GovernedReaches s (calls ++ last) s''

/-- One retained decision answers the observation, and it authorizes a retry. -/
def AnsweredByRetry (t : E.Db) (o : ObservationRow) : Prop :=
  ∃ row : DecisionRow, row.disposition = .retryAuthorized ∧
    t.decisions.filter (fun r => r.blockedObservationId = o.observationId) = [row]

section Runs

variable {s₀ s s' : Sys E} {calls : List (Sys E × Sys E)}

theorem GovernedStep.reaches (h : GovernedStep s s' calls) : Reaches s s' := by
  cases h with
  | operation F hF i op h => exact visits_reaches sequential_reaches h.visits
  | decided i signed y h => exact Reaches.refl.step h

theorem GovernedReaches.reaches (h : GovernedReaches s calls s') : Reaches s s' := by
  induction h with
  | refl => exact .refl
  | step _ hs ih => exact ih.trans hs.reaches

theorem GovernedStep.call_between {c : Sys E × Sys E} (h : GovernedStep s s' calls)
    (hc : c ∈ calls) : Reaches s c.1 ∧ Reaches c.2 s' := by
  cases h with
  | operation F hF i op h =>
    obtain ⟨hbefore, -⟩ := h.call_mem hc
    obtain ⟨_, hafter⟩ := h.rest_mem hc
    exact ⟨visits_reaches sequential_reaches hbefore, visits_reaches sequential_reaches hafter⟩
  | decided i signed y h =>
    obtain rfl := List.mem_singleton.mp hc
    exact ⟨.refl, .refl⟩

/-- Every call of a run lies on it. -/
theorem GovernedReaches.call_between {c : Sys E × Sys E} (h : GovernedReaches s calls s')
    (hc : c ∈ calls) : Reaches s c.1 ∧ Reaches c.2 s' := by
  induction h with
  | refl => exact absurd hc List.not_mem_nil
  | step h hs ih =>
    rcases List.mem_append.mp hc with hc | hc
    · obtain ⟨hbefore, hafter⟩ := ih hc
      exact ⟨hbefore, hafter.trans hs.reaches⟩
    · obtain ⟨hbefore, hafter⟩ := hs.call_between hc
      exact ⟨h.reaches.trans hbefore, hafter⟩

/-- A decision is written, or nothing is. -/
theorem Step.decisionWritten (hs : CacheSound s) {i : ℕ}
    {signed : SignedGovernedRecoveryDecisionV1} {y : Except StoreError Digest}
    (h : Step s i (.retainGovernedRecoveryDecision signed) y s') :
    s'.tables = s.tables ∨ DecisionWritten signed s.tables s'.tables := by
  rcases h.written hs with heq | ⟨reply, published, -, -, hw⟩
  · exact .inl heq
  · cases retainGovernedRecoveryDecision_spec hw with
    | wrote hdecided => exact .inr hdecided

theorem GovernedStep.blockRounds (hs : s.Reachable) (h : GovernedStep s s' calls)
    (hrounds : BlockRounds s.tables) : BlockRounds s'.tables := by
  cases h with
  | operation F hF i op h => exact op.keepsRounds hF hs hrounds h.visits
  | decided i signed y h =>
    rcases h.decisionWritten hs.cacheSound with heq | hw
    · rwa [heq]
    · exact hrounds.decided hw

theorem GovernedReaches.blockRounds (hs : s₀.Reachable) (h : GovernedReaches s₀ calls s)
    (hrounds : BlockRounds s₀.tables) : BlockRounds s.tables := by
  induction h with
  | refl => exact hrounds
  | step h hstep ih => exact hstep.blockRounds (hs.reaches h.reaches) ih

/-- Every observation of a run was retained at one of its calls. -/
theorem GovernedReaches.retainedBetween (hs : s₀.Reachable) (h : GovernedReaches s₀ calls s)
    {r : ObservationRow} (hr : r ∈ s.tables.observations) (hnew : r ∉ s₀.tables.observations) :
    ∃ c ∈ calls, Transacts c.1 c.2 ∧ RetainedBetween r c.1 c.2 := by
  induction h with
  | refl => exact absurd hr hnew
  | @step s s' calls last h hstep ih =>
    have hs' := hs.reaches h.reaches
    by_cases hold : r ∈ s.tables.observations
    · obtain ⟨c, hmem, hc⟩ := ih hold
      exact ⟨c, List.mem_append_left _ hmem, hc⟩
    cases hstep with
    | operation F hF i op ht =>
      obtain ⟨c, hmem, hc⟩ := traced_retainedBetween hs' ht hr hold
      exact ⟨c, List.mem_append_right _ hmem, hc⟩
    | decided i signed y hd =>
      rcases hd.decisionWritten hs'.cacheSound with heq | hw
      · exact absurd (heq ▸ hr) hold
      · rw [hw.eq] at hr
        exact absurd hr hold

/-- The decision that a disposition comes from is the only one. -/
theorem answeredByRetry_of_dispositionOf {t : E.Db} (hk : t.Keys) {o : ObservationRow}
    (h : t.dispositionOf o.observationId = some .retryAuthorized) : AnsweredByRetry t o := by
  obtain ⟨row, hrow, hdisp⟩ := Option.map_eq_some_iff.mp h
  exact ⟨row, hdisp, filter_eq_of_findBy hk.decisionObservation hrow⟩

/-- In every sequential run of a governed facade, with a crash at any point of any
operation and whatever the adapter does : the attempts of each transition are numbered
from 1, every one of them but the last was answered by exactly one retained decision, which
authorized a retry, an operation that finds the latest attempt of the unresolved transition
unanswered adds no observation and no phase, and every observation was retained by one
transaction of the run, when the phase it names was the highest durable one of its transition. -/
theorem governed_block_rounds (h₀ : s₀.Reachable) (hempty : s₀.tables.observations = [])
    (hrun : GovernedReaches s₀ calls s) :
    (∀ d, (s.tables.observationRows d).map ObservationRow.attemptOrdinal =
      List.range' 1 (s.tables.observationRows d).length) ∧
    (∀ d, ∀ o ∈ (s.tables.observationRows d).dropLast, AnsweredByRetry s.tables o) ∧
    (∀ d F i op s', unresolvedIntegrityDigest s.tables = .ok (some d) →
      ¬LatestAnswered s.tables d → F.blockedFinality ≠ none →
      Visits (sequential i) s (FacadeOp.prog F op) s' → Unmoved s.tables s'.tables) ∧
    ∀ r ∈ s.tables.observations, ∃ c ∈ calls, (Reaches s₀ c.1 ∧ Reaches c.2 s) ∧
      Transacts c.1 c.2 ∧ RetainedBetween r c.1 c.2 := by
  have hs := h₀.reaches hrun.reaches
  have hnil (d : Digest) : s₀.tables.observationRows d = [] := by
    simp [Tables.observationRows, hempty, orderBy]
  have hrounds := hrun.blockRounds h₀ ⟨fun d => by simp [hnil],
    fun d o ho => by simp [hnil] at ho⟩
  refine ⟨hrounds.ordinals, fun d o ho => ?_, fun d F i op s' hu hans hF h => ?_, fun r hr => ?_⟩
  · exact answeredByRetry_of_dispositionOf hs.cacheSound.keys (hrounds.answered d o ho)
  · exact op.unanswered hF hs hu hans h
  · obtain ⟨c, hc, hretained⟩ := hrun.retainedBetween h₀ hr (by simp [hempty])
    exact ⟨c, hc, hrun.call_between hc, hretained⟩

end Runs

/-! ## A sample run -/

/-- The sample facade with a recovery profile. -/
def sampleGoverned : Facade sampleEnv :=
  { sampleFacade with blockedFinality := some sampleRecoveryProfile }

/-- The sample service with an anchor statement that it refuses. -/
def sampleRefusal : Script sampleEnv where
  adapter c := if c.operation = "prepare_anchor_statement" then .raises .other else sampleService c
  time := sampleScript.time

/-- The governor lets the first event's blocked transition be tried again. -/
def sampleAuthorizedRetry : SignedGovernedRecoveryDecisionV1 where
  decision :=
    { (sampleSeal sampleFirst).decision with
      blockedObservationId := 881
      blockedOperation := "prepare_anchor_statement"
      blockedReasonCode := contractFailure
      disposition := .retryAuthorized
      decisionId := 891 }
  keyId := ⟨903⟩
  signature := 0

/-- The governed facade has enrolled a fresh store. -/
def sampleGovernedServed : Sys sampleEnv :=
  (sampleRefusal.run 0 (FacadeOp.prog sampleGoverned .enroll) sampleOpened).2

/-- The first event's finality is blocked. -/
def sampleBlocked : Sys sampleEnv :=
  (sampleRefusal.run 0 (FacadeOp.prog sampleGoverned
    (.appendEvidenceEvent sampleFirst sampleFirst.prevDigest ())) sampleGovernedServed).2

/-- A retry is authorized. -/
def sampleAuthorized : Sys sampleEnv :=
  (sampleBlocked.perform 1 (.retainGovernedRecoveryDecision sampleAuthorizedRetry)).2

/-- The retry is blocked too. -/
def sampleBlockedTwice : Sys sampleEnv :=
  (sampleRefusal.run 0 (FacadeOp.prog sampleGoverned .recover) sampleAuthorized).2

theorem sampleBlockedTwice_reaches :
    ∃ calls, GovernedReaches sampleOpened calls sampleBlockedTwice := by
  have hF : sampleGoverned.blockedFinality ≠ none := by simp [sampleGoverned]
  have hrun (op : FacadeOp sampleEnv) (s : Sys sampleEnv) :
      ∃ calls, GovernedStep s (sampleRefusal.run 0 (op.prog sampleGoverned) s).2 calls := by
    obtain ⟨calls, h⟩ := (sampleRefusal.run_ends 0 (op.prog sampleGoverned) s).visits.traced
    exact ⟨calls, .operation sampleGoverned hF 0 op h⟩
  obtain ⟨enrolled, henrolled⟩ := hrun .enroll sampleOpened
  obtain ⟨blocked, hblocked⟩ :=
    hrun (.appendEvidenceEvent sampleFirst sampleFirst.prevDigest ()) sampleGovernedServed
  obtain ⟨again, hagain⟩ := hrun .recover sampleAuthorized
  exact ⟨_, (((GovernedReaches.refl.step henrolled).step hblocked).step
    (.decided 1 sampleAuthorizedRetry _ (sampleBlocked.perform_step 1 _))).step hagain⟩

/-- The first event's two attempts are numbered 1 and 2, the retry answers the first one,
the second one stops a further recovery, and both were retained in the run. -/
theorem governed_block_rounds_sample : ∃ calls,
    GovernedReaches sampleOpened calls sampleBlockedTwice ∧
    (sampleBlockedTwice.tables.observationRows sampleFirst.eventDigest).map
      ObservationRow.attemptOrdinal = [1, 2] ∧
    (∀ o ∈ (sampleBlockedTwice.tables.observationRows sampleFirst.eventDigest).dropLast,
      AnsweredByRetry sampleBlockedTwice.tables o) ∧
    (∀ s', Visits (sequential 0) sampleBlockedTwice (FacadeOp.prog sampleGoverned .recover) s' →
      Unmoved sampleBlockedTwice.tables s'.tables) ∧
    ∀ r ∈ sampleBlockedTwice.tables.observations, ∃ c ∈ calls,
      (Reaches sampleOpened c.1 ∧ Reaches c.2 sampleBlockedTwice) ∧
      Transacts c.1 c.2 ∧ RetainedBetween r c.1 c.2 := by
  have h₀ : sampleOpened.Reachable := ⟨sampleOpened, rfl, fun _ => rfl, .refl⟩
  obtain ⟨calls, hrun⟩ := sampleBlockedTwice_reaches
  obtain ⟨hord, hans, hstop, hret⟩ := governed_block_rounds h₀ rfl hrun
  have hlen : (sampleBlockedTwice.tables.observationRows sampleFirst.eventDigest).length = 2 := by
    decide +kernel
  refine ⟨calls, hrun, by rw [hord, hlen]; rfl, hans _, fun s' h => ?_, hret⟩
  refine hstop sampleFirst.eventDigest sampleGoverned 0 .recover s' (by decide +kernel) ?_
    (by simp [sampleGoverned]) h
  have hlast : ∃ o, sampleBlockedTwice.tables.latestObservation sampleFirst.eventDigest = some o ∧
      sampleBlockedTwice.tables.dispositionOf o.observationId = none := by
    decide +kernel
  obtain ⟨o, ho, hnone⟩ := hlast
  intro hans
  have := hans o ho
  simp [hnone] at this

end Etzio
