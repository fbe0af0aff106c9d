import Etzio.FacadeFinality
import Etzio.StoreSeal

/-!
# What a failed append leaves

The adapter is called between the store's transactions, and any of its calls may raise or
return anything. `Commits` bounds what a program of the facade writes, whatever is
replied : a recovery only writes phases of transitions and block observations
(`Advances`), and the store takes them for the one unresolved transition only.

`appendAndFinalize_error` takes a failed append apart. A recovery that fails leaves its
transition unresolved (`recoverLineage_error`) : once the finalization is retained, what
remains validates records that the store has validated. `append_finality` is the
guarantee of an enrolled facade, `raising_append_recovers` an append that raises after it
has finalized the older transition.
-/

open CheckedRun Interaction Rows

namespace Etzio

variable {E : Env}

/-! ## What a program commits -/

/-- What the call commits satisfies `W`. -/
def FacadeCall.Commits (W : E.Db → E.Db → Prop) {σ : Type} : FacadeCall E σ → Prop
  | .transaction x => ∀ cap t t' published y,
      x.body E cap t = .ok (.wrote t' published, y) → W t t'
  | _ => True

/-- What the calls of the program commit satisfies `W`, whatever is replied. -/
def Commits (W : E.Db → E.Db → Prop) {ρ : Type} (p : FacadeProg E ρ) : Prop :=
  p.Calls fun _ c => c.Commits W

/-- No rows. -/
def NoRows (_ _ : E.Db) : Prop := False

/-- A later phase of some transition, which then satisfies `P`. -/
inductive LaterPhase (P : IntegrityLineageV1 → Prop) (t t' : E.Db) : Prop
  | intro (d : Digest) (phase : EvidencePhase) (l l' : IntegrityLineageV1)
      (hl : loadIntegrityLineage E t d = .ok (some l)) (h : PhaseWritten d phase l l' t t')
      (hp : P l')

/-- A later phase, or a block observation. -/
inductive Advances (P : IntegrityLineageV1 → Prop) (t t' : E.Db) : Prop
  | phase (h : LaterPhase P t t')
  | observed (o : BlockedFinalityObservationV1) (h : ObservationWritten o t t')

section Commits

variable {W W' : E.Db → E.Db → Prop} {ρ σ : Type} {F : Facade E}

theorem Commits.mono {p : FacadeProg E ρ} (h : Commits W p) (hW : ∀ t t', W t t' → W' t t') :
    Commits W' p := by
  refine Prog.Calls.mono h fun σ c hc => ?_
  cases c with
  | transaction x => exact fun cap t t' published y hx => hW _ _ (hc cap t t' published y hx)
  | _ => trivial

theorem Commits.bind {p : FacadeProg E σ} {f : σ → FacadeProg E ρ} (hp : Commits W p)
    (hf : ∀ a, Commits W (f a)) : Commits W (p >>= f) :=
  Prog.Calls.bind hp hf

theorem Commits.handle {p : FacadeProg E ρ} {f : Raised → FacadeProg E ρ} (hp : Commits W p)
    (hf : ∀ x, Commits W (f x)) : Commits W (p.handle f) :=
  Prog.Calls.handle hp hf

theorem commits_done {r : Except Raised ρ} : Commits W (.done r : FacadeProg E ρ) := trivial

theorem commits_storeCall {x : Txn E ρ} (h : (FacadeCall.transaction x).Commits W) :
    Commits W (storeCall x) :=
  ⟨h, fun _ => trivial⟩

theorem FacadeCall.commits_read {x : Txn E ρ} {q : E.Db → Except StoreError ρ}
    (hbody : ∀ cap t, x.body E cap t = readOnly E (q t)) :
    (FacadeCall.transaction x).Commits W := by
  intro cap t t' published y hx
  rw [hbody] at hx
  simpa using (readOnly_unchanged hx).2

theorem commits_read {x : Txn E ρ} {q : E.Db → Except StoreError ρ}
    (hbody : ∀ cap t, x.body E cap t = readOnly E (q t)) : Commits W (storeCall x) :=
  commits_storeCall (FacadeCall.commits_read hbody)

/-- A store operation that begins with a read. -/
theorem commits_ofProgram_read {x : Txn E σ} {q : E.Db → Except StoreError σ}
    {next : Except StoreError σ → Program E ρ} (hbody : ∀ cap t, x.body E cap t = readOnly E (q t))
    (hn : ∀ y, Commits W (ofProgram (next y))) : Commits W (ofProgram (.transaction x next)) :=
  ⟨FacadeCall.commits_read hbody, hn⟩

theorem commits_adapter {c : AdapterCall E ρ} : Commits W (callModeledIntegrityAdapter c) :=
  ⟨trivial, fun y => by cases y <;> trivial⟩

theorem commits_qualifiedTime : Commits W (qualifiedTime : FacadeProg E _) :=
  ⟨trivial, fun y => by cases y <;> trivial⟩

end Commits

/-! ## Programs of the facade -/

section Programs

variable {W : E.Db → E.Db → Prop} {F : Facade E} {l : IntegrityLineageV1} {e : EventV1}
  {previous : Option IntegrityLineageV1 × Option IntegrityLineageV1}

theorem commits_eventForLineage : Commits W (eventForLineage l : FacadeProg E _) := by
  refine .bind (commits_read fun _ _ => rfl) fun o => ?_
  cases o with
  | none => exact commits_done
  | some e =>
    dsimp only
    split_ifs
    · exact commits_done
    · exact commits_done

theorem commits_retainedPredecessors : Commits W (retainedPredecessors l : FacadeProg E _) :=
  .bind commits_eventForLineage fun _ => .bind (commits_read fun _ _ => rfl) fun _ => commits_done

theorem commits_requireUnsealedInstance : Commits W F.requireUnsealedInstance := by
  unfold Facade.requireUnsealedInstance
  cases F.blockedFinality with
  | none => exact commits_done
  | some profile =>
    refine .bind (commits_read fun _ _ => rfl) fun b => ?_
    cases b <;> exact commits_done

theorem commits_requireRecoveryAuthorization : Commits W (F.requireRecoveryAuthorization l) := by
  unfold Facade.requireRecoveryAuthorization
  cases F.blockedFinality with
  | none => exact commits_done
  | some profile =>
    refine .bind (commits_read fun _ _ => rfl) fun os => ?_
    cases os.getLast? with
    | none => exact commits_done
    | some latest =>
      refine .bind (commits_read fun _ _ => rfl) fun o => ?_
      cases o with
      | none => exact commits_done
      | some signed =>
        refine .bind commits_done fun r => ?_
        split_ifs
        · exact commits_done
        · exact commits_done

/-- A block is captured by an observation. -/
theorem commits_retainBlockedObservation {P : IntegrityLineageV1 → Prop} {x : IntegrityError}
    {operation : String} : Commits (Advances P) (F.retainBlockedObservation l x operation) := by
  unfold Facade.retainBlockedObservation
  cases F.blockedFinality with
  | none => exact commits_done
  | some profile =>
    refine .bind (commits_read fun _ _ => rfl) fun o => ?_
    cases o with
    | none => exact commits_done
    | some current =>
      dsimp only
      by_cases hp : E.integrity.pendingRecordId current.pending ≠
          E.integrity.pendingRecordId l.pending
      · rw [if_pos hp]
        exact commits_done
      rw [if_neg hp]
      cases current.phase.blockable with
      | none => exact commits_done
      | some phase =>
        refine .bind (commits_read fun _ _ => rfl) fun _ => .bind commits_qualifiedTime fun _ =>
          .bind commits_done fun o => .bind (commits_storeCall fun cap t t' published y hx => ?_)
            fun _ => commits_done
        cases retainBlockedFinalityObservation_spec hx with
        | wrote hw => exact .observed o hw

theorem commits_retainBlock {P : IntegrityLineageV1 → Prop} {x : Raised} :
    Commits (Advances P) (F.retainBlock l x) := by
  unfold Facade.retainBlock
  cases x with
  | finalityBlocked e o => exact .bind commits_retainBlockedObservation fun _ => commits_done
  | _ => exact commits_done

theorem commits_anchorOf {m : Option IntegrityLineageV1} :
    Commits (LaterPhase (·.finalization = none)) (anchorOf l m : FacadeProg E _) := by
  unfold anchorOf
  cases l.anchorStatement with
  | none =>
    refine .bind commits_adapter fun x => .bind commits_done fun _ =>
      commits_storeCall fun cap t t' published y hx => ?_
    cases retainIntegrityAnchorStatement_spec hx with
    | wrote hw =>
      obtain ⟨-, l, hl, hw⟩ := hw
      exact .intro _ _ l _ hl hw rfl
  | some a => exact .bind commits_done fun _ => commits_done

theorem commits_candidateOf {a : AnchorStatementRecordV1} :
    Commits (LaterPhase (·.finalization = none)) (F.candidateOf e l a previous) := by
  unfold Facade.candidateOf
  cases l.checkpointCandidate with
  | none =>
    refine .bind commits_adapter fun _ => .bind commits_adapter fun x => .bind commits_done fun _ =>
      .bind commits_done fun _ => commits_storeCall fun cap t t' published y hx => ?_
    cases retainIntegrityCheckpointCandidate_spec hx with
    | wrote hw =>
      obtain ⟨-, l, a, hl, -, hw⟩ := hw
      exact .intro _ _ l _ hl hw rfl
  | some c => exact .bind commits_done fun _ => .bind commits_done fun _ => commits_done

theorem commits_finalizationOf {c : CheckpointCandidateRecordV1} :
    Commits (LaterPhase fun _ => True) (F.finalizationOf e l c previous) := by
  unfold Facade.finalizationOf
  cases l.finalization with
  | none =>
    refine .bind commits_adapter fun _ => .bind commits_adapter fun x => .bind commits_done fun _ =>
      .bind commits_done fun _ => commits_storeCall fun cap t t' published y hx => ?_
    cases finalizeIntegrityTransition_spec hx with
    | wrote hw =>
      obtain ⟨-, l, c, hl, -, hw⟩ := hw
      exact .intro _ _ l _ hl hw trivial
  | some f => exact commits_done

theorem LaterPhase.weaken {P : IntegrityLineageV1 → Prop} {t t' : E.Db} (h : LaterPhase P t t') :
    LaterPhase (fun _ => True) t t' := by
  obtain ⟨d, phase, l, l', hl, h, -⟩ := h
  exact ⟨d, phase, l, l', hl, h, trivial⟩

theorem commits_recoverLineage : Commits (LaterPhase fun _ => True) (F.recoverLineage l) := by
  refine .bind commits_eventForLineage fun e => .bind commits_retainedPredecessors fun previous =>
    .bind commits_done fun _ => .bind commits_done fun _ => .bind commits_adapter fun _ =>
    .bind (commits_anchorOf.mono fun _ _ => LaterPhase.weaken) fun a => .bind commits_done fun _ =>
    .bind (commits_candidateOf.mono fun _ _ => LaterPhase.weaken) fun c => .bind commits_done
    fun _ => .bind commits_finalizationOf fun f => .bind commits_done fun _ =>
    .bind commits_done fun _ => commits_done

theorem commits_advanceFinality : Commits (Advances fun _ => True) (F.advanceFinality l) :=
  .bind commits_requireUnsealedInstance fun _ => .handle
    (.bind commits_requireRecoveryAuthorization fun _ =>
      .handle (commits_recoverLineage.mono fun _ _ => Advances.phase) fun _ => commits_done)
    fun _ => commits_retainBlock

theorem commits_requireReached {m : String} : Commits W (requireReached l m : FacadeProg E _) := by
  unfold requireReached
  cases l.finalization <;> exact commits_done

theorem commits_recoverPendingTransition :
    Commits (Advances fun _ => True) F.recoverPendingTransition := by
  refine .bind (commits_read fun _ _ => rfl) fun o => ?_
  cases o with
  | none => exact commits_done
  | some l =>
    exact .bind commits_advanceFinality fun _ => .bind commits_requireReached fun _ => commits_done

theorem commits_confirmRetained {d : Digest} {retained : EventV1} :
    Commits W (F.confirmRetained e d retained) := by
  unfold Facade.confirmRetained
  split_ifs
  · exact commits_done
  refine .bind (commits_read fun _ _ => rfl) fun o => ?_
  cases o with
  | none => exact commits_done
  | some l =>
    dsimp only
    split_ifs
    · exact commits_done
    cases l.checkpointCandidate with
    | none => exact commits_done
    | some c =>
      exact .bind commits_retainedPredecessors fun _ => .bind commits_done fun _ =>
        .bind commits_done fun _ => .bind commits_done fun _ => commits_done

theorem commits_proposePending : Commits W (F.proposePending e previous) :=
  .handle (.bind commits_adapter fun _ => .bind commits_done fun _ => .bind commits_done fun _ =>
    commits_done) fun _ => commits_done

theorem commits_latestPredecessors : Commits W (latestPredecessorsForNewEvent e : FacadeProg E _) :=
  .bind (commits_read fun _ _ => rfl) fun _ => commits_done

end Programs

/-! ## Sequential runs -/

section Sequential

variable {W : E.Db → E.Db → Prop} {I : E.Db → Prop} {i : ℕ} {s s' : Sys E} {ρ : Type}
  {p : FacadeProg E ρ} {r : Except Raised ρ}

theorem sequential_reaches (a b : Sys E) (h : a = b) : Reaches a b := h ▸ .refl

/-- What the committed writes keep holds wherever a sequential run stops. -/
theorem visits_sequential (hp : Commits W p)
    (hW : ∀ {t t' : E.Db}, t.Keys → Accepted t → W t t' → I t → I t')
    (h : Visits (sequential i) s p s') (hs : CacheSound s) (hI : I s.tables) : I s'.tables := by
  refine (h.invariant (I := fun s => CacheSound s ∧ I s.tables) hp ?_ ⟨hs, hI⟩).2
  rintro σ a b c y hc hcall ⟨hs, hI⟩
  have hsound := hs.reaches (facadeCalls_reaches sequential_reaches hcall).foreignReaches
  refine ⟨hsound, ?_⟩
  cases c with
  | transaction x =>
    obtain ⟨_, rfl, hstep⟩ := hcall
    rcases hstep.written hs with heq | ⟨reply, published, -, hacc, hx⟩
    · rwa [heq]
    · exact hW hs.keys hacc (hc _ _ _ _ _ hx) hI
  | read =>
    obtain ⟨rfl, -⟩ := hcall
    exact hI
  | adapter c =>
    obtain rfl := hcall
    exact hI
  | qualifiedTime =>
    obtain rfl := hcall
    exact hI

/-- A program that commits no rows leaves the tables alone. -/
theorem ends_tables_eq (hp : Commits NoRows p) (h : Ends (sequential i) s p r s')
    (hs : CacheSound s) : s'.tables = s.tables :=
  visits_sequential (I := fun t => t = s.tables) hp (fun _ _ hw _ => hw.elim) h.visits hs rfl

end Sequential

/-! ## Rows of one transition -/

/-- `t'` is `t` with rows of the transition `d` added, its block history included. -/
structure ExtendedBy (d : Digest) (t t' : E.Db) : Prop where
  grows : Grows d t { t' with observations := t.observations }
  observations : Appends (fun r => r.eventDigest = d) t.observations t'.observations

section Extended

variable {d x : Digest} {t t' t'' : E.Db} {P : IntegrityLineageV1 → Prop}

theorem Grows.withObservations (h : Grows d t t') (os : List ObservationRow) :
    Grows d { t with observations := os } { t' with observations := os } :=
  ⟨h.profile, h.acceptanceProfile, h.recoveryProfile, rfl, h.decisions, h.events, h.pending,
    h.anchors, h.candidates, h.finalizations, h.mappings, h.artifacts⟩

theorem Grows.refl : Grows d t t :=
  ⟨rfl, rfl, rfl, rfl, rfl, .refl, .refl, .refl, .refl, .refl, .refl, .refl⟩

theorem ExtendedBy.refl : ExtendedBy d t t := ⟨Grows.refl, .refl⟩

theorem ExtendedBy.trans (h : ExtendedBy d t t') (h' : ExtendedBy d t' t'') : ExtendedBy d t t'' :=
  ⟨h.grows.trans (h'.grows.withObservations t.observations),
    h.observations.trans h'.observations⟩

theorem Grows.extendedBy (h : Grows d t t') : ExtendedBy d t t' :=
  ⟨h.withObservations t.observations, h.observations ▸ .refl⟩

theorem ObservationWritten.extendedBy {o : BlockedFinalityObservationV1}
    (h : ObservationWritten o t t') : ExtendedBy o.eventDigest t t' := by
  rw [h.eq]
  exact ⟨Grows.refl, .snoc rfl⟩

/-- The lineages of the other transitions are as they were. -/
theorem ExtendedBy.loadIntegrityLineage_eq (h : ExtendedBy d t t')
    (hfk : t.ForeignKeys E.vaultForeignKeys) (hx : x ≠ d) :
    loadIntegrityLineage E t' x = loadIntegrityLineage E t x :=
  h.grows.loadIntegrityLineage_eq hfk hx

/-- A blocked transition is the unresolved one. -/
theorem ObservationWritten.unresolved {o : BlockedFinalityObservationV1}
    (h : ObservationWritten o t t') (hk : t.Keys) (hacc : Accepted t) :
    unresolvedIntegrityDigest t = .ok (some o.eventDigest) := by
  obtain ⟨profile, l, henr, hl, hv⟩ := h.enrolled
  obtain ⟨-, p, hp⟩ := requireEnrolledRecoveryProfile_spec henr
  have hs := ((accepted_modeled hk hp).mp hacc).structured
  refine hs.unresolved_of_unfinalized hk hl ?_
  unfold validateBlockedObservationLineageV1 at hv
  obtain ⟨-, hv⟩ := unit_bind_eq_ok.mp hv
  obtain ⟨-, hv⟩ := unit_bind_eq_ok.mp hv
  have hphase : o.unresolvedPhase.lineagePhase = l.phase := by simpa using hv
  by_contra hf
  rw [IntegrityLineageV1.phase, if_pos (Option.isSome_iff_ne_none.mpr hf)] at hphase
  cases ho : o.unresolvedPhase <;> simp [ho, BlockablePhase.lineagePhase] at hphase

/-- The unresolved transition after a phase of it was written, if it is not finalized. -/
theorem PhaseWritten.unresolved_cases {phase : EvidencePhase} {l l' : IntegrityLineageV1}
    (h : PhaseWritten d phase l l' t t') (hx : unresolvedIntegrityDigest t' = .ok (some x)) :
    x = d := by
  have hsub : t'.unresolved.Sublist t.unresolved := by
    rw [Tables.unresolved, Tables.unresolved, h.pending]
    refine List.monotone_filter_right _ fun q hq => ?_
    simp only [decide_eq_true_eq] at hq ⊢
    rintro ⟨f, hf, hd⟩
    exact hq ⟨f, h.grows.finalizations.mem hf, hd⟩
  have hu := h.unresolved
  unfold unresolvedIntegrityDigest at hu hx
  split at hx
  · simp at hx
  · rename_i q hq
    split at hu
    · simp at hu
    · rename_i q' hq'
      rw [hq, hq'] at hsub
      obtain rfl : q = q' := by simpa using hsub
      rw [← Option.some.inj (Except.ok.inj hx), Option.some.inj (Except.ok.inj hu)]
    · simp at hu
  · simp at hx

/-- An advance adds rows of the unresolved transition, which stays the only one there
can be. -/
theorem Advances.extendedBy (h : Advances P t t') (hk : t.Keys) (hacc : Accepted t)
    (hd : ∀ x, unresolvedIntegrityDigest t = .ok (some x) → x = d) :
    ExtendedBy d t t' ∧ ∀ x, unresolvedIntegrityDigest t' = .ok (some x) → x = d := by
  cases h with
  | phase h =>
    obtain ⟨y, phase, l, l', hl, h, -⟩ := h
    obtain rfl := hd y h.unresolved
    exact ⟨h.grows.extendedBy, fun x hx => h.unresolved_cases hx⟩
  | observed o h =>
    obtain rfl := hd _ (h.unresolved hk hacc)
    refine ⟨h.extendedBy, fun x hx => hd x ?_⟩
    rw [h.eq] at hx
    exact hx

theorem Advances.exists_unresolved (h : Advances P t t') (hk : t.Keys) (hacc : Accepted t) :
    ∃ x, unresolvedIntegrityDigest t = .ok (some x) := by
  cases h with
  | phase h =>
    obtain ⟨y, phase, l, l', hl, h, -⟩ := h
    exact ⟨y, h.unresolved⟩
  | observed o h => exact ⟨_, h.unresolved hk hacc⟩

/-- An advance that does not finalize keeps the unresolved transition. -/
theorem Advances.unresolved (h : Advances (·.finalization = none) t t') (hk : t.Keys)
    (hacc : Accepted t) (hu : unresolvedIntegrityDigest t = .ok (some d)) :
    unresolvedIntegrityDigest t' = .ok (some d) := by
  cases h with
  | phase h =>
    obtain ⟨y, phase, l, l', hl, h, hopen⟩ := h
    obtain rfl : y = d := Option.some.inj (Except.ok.inj (h.unresolved.symm.trans hu))
    have hacc' := h.accepted hk hacc hl
    obtain ⟨r, hlf⟩ := loadIntegrityLineage_some h.loaded
    obtain ⟨p, hp⟩ := hacc'.modeled_of_pending (mem_of_findBy hlf.row)
    have hs := ((accepted_modeled (h.keys hk) hp).mp hacc').structured
    exact hs.unresolved_of_unfinalized (h.keys hk) h.loaded hopen
  | observed o h =>
    rw [h.eq]
    exact hu

end Extended

section Advance

variable {d : Digest} {i : ℕ} {s s' : Sys E} {ρ : Type} {p : FacadeProg E ρ} {r : Except Raised ρ}

/-- Advances add rows of the unresolved transition only. -/
theorem ends_extendedBy (hp : Commits (Advances fun _ => True) p)
    (h : Ends (sequential i) s p r s') (hs : CacheSound s)
    (hu : unresolvedIntegrityDigest s.tables = .ok (some d)) :
    ExtendedBy d s.tables s'.tables := by
  refine (visits_sequential (I := fun t => ExtendedBy d s.tables t ∧
    ∀ x, unresolvedIntegrityDigest t = .ok (some x) → x = d) hp ?_ h.visits hs
    ⟨.refl, fun x hx => ?_⟩).1
  · rintro t t' hk hacc hw ⟨hext, hd⟩
    obtain ⟨hext', hd'⟩ := hw.extendedBy hk hacc hd
    exact ⟨hext.trans hext', hd'⟩
  · rw [hu] at hx
    exact (Option.some.inj (Except.ok.inj hx)).symm

/-- A program that finalizes nothing keeps the unresolved transition. -/
theorem ends_unresolved (hp : Commits (Advances (·.finalization = none)) p)
    (h : Ends (sequential i) s p r s') (hs : CacheSound s)
    (hu : unresolvedIntegrityDigest s.tables = .ok (some d)) :
    unresolvedIntegrityDigest s'.tables = .ok (some d) :=
  visits_sequential (I := fun t => unresolvedIntegrityDigest t = .ok (some d)) hp
    (fun hk hacc hw hu => hw.unresolved hk hacc hu) h.visits hs hu

end Advance

/-! ## A failed recovery -/

section Loaded

variable {t : E.Db} {d : Digest} {l : IntegrityLineageV1} {e : EventV1}
  {previous p : Option IntegrityLineageV1 × Option IntegrityLineageV1}

/-- A loaded lineage is made of its own parts. -/
theorem loadIntegrityLineage_construct (h : loadIntegrityLineage E t d = .ok (some l)) :
    IntegrityLineageV1.construct E.integrity l.pending l.anchorStatement l.checkpointCandidate
      l.finalization = .ok l := by
  unfold loadIntegrityLineage at h
  split at h
  · simp at h
  · obtain ⟨-, h⟩ := unit_bind_eq_ok.mp h
    obtain ⟨-, h⟩ := unit_bind_eq_ok.mp h
    obtain ⟨-, h⟩ := unit_bind_eq_ok.mp h
    obtain ⟨a, -, h⟩ := bind_eq_ok.mp h
    obtain ⟨c, -, h⟩ := bind_eq_ok.mp h
    obtain ⟨f, -, h⟩ := bind_eq_ok.mp h
    obtain ⟨x, hx, h⟩ := bind_eq_ok.mp h
    obtain rfl : x = l := Option.some.inj (Except.ok.inj h)
    have hx := mapError_eq_ok.mp hx
    obtain ⟨rfl, -⟩ := construct_eq_ok hx
    exact hx

theorem loadIntegrityLineage_eventDigest (h : loadIntegrityLineage E t d = .ok (some l)) :
    l.pending.eventDigest = d := by
  obtain ⟨r, hlf⟩ := loadIntegrityLineage_some h
  rw [hlf.pending, hlf.agrees.1]
  exact key_of_findBy hlf.row

/-- Valid predecessors are passed on as they are. -/
theorem validatedPredecessors_eq_ok (h : validatedPredecessors e previous = .ok p) :
    p = previous := by
  unfold validatedPredecessors at h
  split_ifs at h
  · obtain ⟨-, h⟩ := unit_bind_eq_ok.mp h
    obtain ⟨hnone, h⟩ := unit_bind_eq_ok.mp h
    rw [refuseIf_eq_ok, not_not] at hnone
    rw [← Except.ok.inj h, ← hnone]
  · obtain ⟨-, h⟩ := unit_bind_eq_ok.mp h
    exact (Except.ok.inj h).symm

end Loaded

section Recovery

variable {F : Facade E} {i : ℕ} {s s' : Sys E} {ρ : Type} {d : Digest}
  {l : IntegrityLineageV1} {e : EventV1} {x : Raised}
  {previous : Option IntegrityLineageV1 × Option IntegrityLineageV1}

theorem ends_eventForLineage (h : Ends (sequential i) s (eventForLineage l) (.ok e) s') :
    eventForIntegrityDigest E s'.tables l.pending.eventDigest = .ok e := by
  obtain ⟨o, s₁, h₁, h⟩ := ends_bind_ok.mp h
  obtain ⟨-, ho⟩ := ends_read (q := fun t => loadIntegrityEvent E t _) sequential_reaches
    (fun _ _ => rfl) h₁
  cases o with
  | none => simp at h
  | some y =>
    dsimp only at h
    split_ifs at h
    · simp at h
    · obtain ⟨hy, rfl⟩ := ends_pure.mp h
      obtain rfl := Except.ok.inj hy
      exact loadIntegrityEvent_some ho

theorem ends_retainedPredecessors
    (h : Ends (sequential i) s (retainedPredecessors l) (.ok previous) s') :
    predecessorLineages E s'.tables l.pending.eventDigest = .ok previous := by
  obtain ⟨e, s₁, -, h⟩ := ends_bind_ok.mp h
  obtain ⟨p, s₂, h₂, h⟩ := ends_bind_ok.mp h
  obtain ⟨-, hp⟩ := ends_read (q := fun t => predecessorLineages E t _) sequential_reaches
    (fun _ _ => rfl) h₂
  obtain ⟨hvalid, rfl⟩ := ends_checked_ok.mp h
  rw [validatedPredecessors_eq_ok hvalid]
  exact hp

theorem validateAnchorStatement_eventDigest {I : IntegrityPrimitives}
    {p : PendingIntegrityTransitionV1} {a : AnchorStatementRecordV1} {m : Option IntegrityLineageV1}
    (h : validateAnchorStatement I p a m = .ok ()) : a.eventDigest = p.eventDigest := by
  unfold validateAnchorStatement validateAnchorStatementRecord at h
  obtain ⟨h, -⟩ := unit_bind_eq_ok.mp h
  obtain ⟨hbinds, -⟩ := unit_bind_eq_ok.mp h
  rw [refuseIf_eq_ok] at hbinds
  push Not at hbinds
  exact hbinds.2.1

theorem validateCheckpointCandidate_eventDigest {I : IntegrityPrimitives}
    {p : PendingIntegrityTransitionV1} {a : AnchorStatementRecordV1}
    {c : CheckpointCandidateRecordV1} {g m : Option IntegrityLineageV1}
    {y : AuthenticatedHeadCheckpointV1}
    (h : validateCheckpointCandidate I e p a c g m = .ok y) : c.eventDigest = e.eventDigest := by
  unfold validateCheckpointCandidate authenticateCheckpointCandidate at h
  obtain ⟨-, h⟩ := unit_bind_eq_ok.mp h
  obtain ⟨hbinds, -⟩ := unit_bind_eq_ok.mp h
  rw [refuseIf_eq_ok] at hbinds
  push Not at hbinds
  exact hbinds.2.2

/-- The anchor statement of a recovery is the retained one. -/
theorem anchorOf_loaded (hs : CacheSound s)
    (hl : loadIntegrityLineage E s.tables l.pending.eventDigest = .ok (some l))
    {a : AnchorStatementRecordV1} {m : Option IntegrityLineageV1}
    (h : Ends (sequential i) s (anchorOf l m) (.ok a) s') :
    loadIntegrityLineage E s'.tables l.pending.eventDigest =
      .ok (some ⟨l.pending, some a, l.checkpointCandidate, l.finalization⟩) := by
  obtain ⟨r, hlf⟩ := loadIntegrityLineage_some hl
  unfold anchorOf at h
  cases ha : l.anchorStatement with
  | none =>
    rw [ha] at h
    obtain ⟨⟨y, b⟩, s₁, h₁, h⟩ := ends_bind_ok.mp h
    obtain ⟨⟨⟩, hvalid, h⟩ := ends_checked_bind.mp h
    obtain ⟨_, rfl, hstep⟩ := ends_storeCall_ok.mp h
    have hd := validateAnchorStatement_eventDigest hvalid
    have heq := ends_tables_eq commits_adapter h₁ hs
    obtain ⟨rfl, hkept | hwritten⟩ := hstep.outcome fun _ hc =>
      retainIntegrityAnchorStatement_spec hc
    · -- No anchor statement of this transition was retained.
      obtain ⟨-, row, hrow, hrd, -⟩ := hkept
      rcases hlf.anchor_cases with ⟨z, hz, -⟩ | ⟨-, hfresh⟩
      · simp [ha] at hz
      · exact absurd (hrd.trans hd) (hfresh row (heq ▸ hrow))
    · obtain ⟨-, l₀, hl₀, hw⟩ := hwritten
      rw [hd, heq] at hl₀
      obtain rfl : l = l₀ := Option.some.inj (Except.ok.inj (hl.symm.trans hl₀))
      have hc := hlf.anchorFirst ha
      rw [hc, hlf.candidateFirst hc, ← hd]
      exact hw.loaded
  | some y =>
    rw [ha] at h
    obtain ⟨-, -, h⟩ := ends_checked_bind.mp h
    obtain ⟨hy, rfl⟩ := ends_pure.mp h
    obtain rfl := Except.ok.inj hy
    rw [← ha]
    exact hl

/-- So is its checkpoint candidate. -/
theorem candidateOf_loaded (hs : CacheSound s) {a : AnchorStatementRecordV1}
    (hl : loadIntegrityLineage E s.tables l.pending.eventDigest = .ok (some l))
    (ha : l.anchorStatement = some a) (he : e.eventDigest = l.pending.eventDigest)
    {c : CheckpointCandidateRecordV1}
    (h : Ends (sequential i) s (F.candidateOf e l a previous) (.ok c) s') :
    loadIntegrityLineage E s'.tables l.pending.eventDigest =
      .ok (some ⟨l.pending, some a, some c, l.finalization⟩) := by
  obtain ⟨r, hlf⟩ := loadIntegrityLineage_some hl
  unfold Facade.candidateOf at h
  cases hcand : l.checkpointCandidate with
  | none =>
    rw [hcand] at h
    obtain ⟨receipts, s₁, h₁, h⟩ := ends_bind_ok.mp h
    obtain ⟨⟨y, b⟩, s₂, h₂, h⟩ := ends_bind_ok.mp h
    obtain ⟨⟨⟩, -, h⟩ := ends_checked_bind.mp h
    obtain ⟨v, hvalid, h⟩ := ends_checked_bind.mp h
    obtain ⟨_, rfl, hstep⟩ := ends_storeCall_ok.mp h
    have hd := (validateCheckpointCandidate_eventDigest hvalid).trans he
    have hs₁ := hs.reaches (ends_reaches sequential_reaches h₁).foreignReaches
    have heq := (ends_tables_eq commits_adapter h₂ hs₁).trans
      (ends_tables_eq commits_adapter h₁ hs)
    obtain ⟨rfl, hkept | hwritten⟩ := hstep.outcome fun _ hc =>
      retainIntegrityCheckpointCandidate_spec hc
    · obtain ⟨-, row, hrow, hrd, -⟩ := hkept
      rcases hlf.candidate_cases with ⟨z, hz, -⟩ | ⟨-, hfresh⟩
      · simp [hcand] at hz
      · exact absurd (hrd.trans hd) (hfresh row (heq ▸ hrow))
    · obtain ⟨-, l₀, a₀, hl₀, ha₀, hw⟩ := hwritten
      rw [hd, heq] at hl₀
      obtain rfl : l = l₀ := Option.some.inj (Except.ok.inj (hl.symm.trans hl₀))
      obtain rfl : a = a₀ := Option.some.inj (ha.symm.trans ha₀)
      rw [hlf.candidateFirst hcand, ← hd]
      exact hw.loaded
  | some y =>
    rw [hcand] at h
    obtain ⟨-, -, h⟩ := ends_checked_bind.mp h
    obtain ⟨-, -, h⟩ := ends_checked_bind.mp h
    obtain ⟨hy, rfl⟩ := ends_pure.mp h
    obtain rfl := Except.ok.inj hy
    rw [← ha, ← hcand]
    exact hl

/-- And so is its finalization. -/
theorem finalizationOf_loaded (hs : CacheSound s) {c : CheckpointCandidateRecordV1}
    (hl : loadIntegrityLineage E s.tables l.pending.eventDigest = .ok (some l))
    (hc : l.checkpointCandidate = some c) (hopen : l.finalization = none)
    {f : FinalizedIntegrityTransitionV1}
    (h : Ends (sequential i) s (F.finalizationOf e l c previous) (.ok f) s') :
    loadIntegrityLineage E s'.tables l.pending.eventDigest =
      .ok (some ⟨l.pending, l.anchorStatement, some c, some f⟩) := by
  obtain ⟨r, hlf⟩ := loadIntegrityLineage_some hl
  unfold Facade.finalizationOf at h
  rw [hopen] at h
  obtain ⟨⟨⟩, s₁, h₁, h⟩ := ends_bind_ok.mp h
  obtain ⟨⟨floor, evidence⟩, s₂, h₂, h⟩ := ends_bind_ok.mp h
  obtain ⟨g, hg, h⟩ := ends_checked_bind.mp h
  obtain ⟨v, hvalid, h⟩ := ends_checked_bind.mp h
  obtain ⟨_, rfl, hstep⟩ := ends_storeCall_ok.mp h
  have hd := proposedFinalization_eq_ok hg
  have hs₁ := hs.reaches (ends_reaches sequential_reaches h₁).foreignReaches
  have heq := (ends_tables_eq commits_adapter h₂ hs₁).trans (ends_tables_eq commits_adapter h₁ hs)
  obtain ⟨rfl, hkept | hwritten⟩ := hstep.outcome fun _ hc => finalizeIntegrityTransition_spec hc
  · obtain ⟨-, row, hrow, hrd, -⟩ := hkept
    rcases hlf.finalization_cases with ⟨z, hz, -⟩ | ⟨-, hfresh⟩
    · simp [hopen] at hz
    · exact absurd (hrd.trans hd) (hfresh row (heq ▸ hrow))
  · obtain ⟨-, l₀, c₀, hl₀, hc₀, hw⟩ := hwritten
    rw [hd, heq] at hl₀
    obtain rfl : l = l₀ := Option.some.inj (Except.ok.inj (hl.symm.trans hl₀))
    obtain rfl : c = c₀ := Option.some.inj (hc.symm.trans hc₀)
    rw [← hd]
    exact hw.loaded

/-- A finalization that fails is not retained. -/
theorem finalizationOf_error (hs : CacheSound s) {c : CheckpointCandidateRecordV1}
    (h : Ends (sequential i) s (F.finalizationOf e l c previous) (.error x) s')
    (hu : unresolvedIntegrityDigest s.tables = .ok (some d)) :
    unresolvedIntegrityDigest s'.tables = .ok (some d) := by
  unfold Facade.finalizationOf at h
  cases hf : l.finalization with
  | none =>
    rw [hf] at h
    rcases ends_bind.mp h with ⟨⟨⟩, s₁, h₁, h⟩ | ⟨_, -, h₁⟩
    swap
    · exact ends_unresolved commits_adapter h₁ hs hu
    have hs₁ := hs.reaches (ends_reaches sequential_reaches h₁).foreignReaches
    have hu₁ := ends_unresolved commits_adapter h₁ hs hu
    rcases ends_bind.mp h with ⟨⟨floor, evidence⟩, s₂, h₂, h⟩ | ⟨_, -, h₂⟩
    swap
    · exact ends_unresolved commits_adapter h₂ hs₁ hu₁
    have hu₂ := ends_unresolved commits_adapter h₂ hs₁ hu₁
    rcases ends_checked_cases h with ⟨g, -, h⟩ | ⟨-, rfl⟩
    swap
    · exact hu₂
    rcases ends_checked_cases h with ⟨v, -, h⟩ | ⟨-, rfl⟩
    swap
    · exact hu₂
    obtain ⟨_, y, rfl, hstep, hy⟩ := ends_storeCall.mp h
    rcases hstep.tables with heq | ⟨reply, published, rfl, -⟩
    · exact heq ▸ hu₂
    · cases hy
  | some f =>
    rw [hf] at h
    obtain ⟨hx, -⟩ := ends_pure.mp h
    cases hx

/-- The event of a retained transition stays what it is. -/
theorem Reaches.eventForIntegrityDigest_eq (hs : CacheSound s) (hr : Reaches s s')
    {e' : EventV1} (he : eventForIntegrityDigest E s.tables d = .ok e)
    (he' : eventForIntegrityDigest E s'.tables d = .ok e') : e' = e := by
  obtain ⟨-, -, row, hrow, hd, rfl⟩ := eventForIntegrityDigest_eq_ok he
  obtain ⟨-, -, row', hrow', hd', rfl⟩ := eventForIntegrityDigest_eq_ok he'
  have hkeys := (hs.reaches hr.foreignReaches).keys
  rw [List.inj_on_of_nodup_map hkeys.eventDigest hrow' ((hr.rows_subset hs).1 hrow)
    (hd'.trans hd.symm)]

/-- A recovery that has finalized its transition completes. -/
theorem complete_of_loaded (hs : s.Reachable) {l' : IntegrityLineageV1}
    (hl : loadIntegrityLineage E s.tables l.pending.eventDigest = .ok (some l))
    (he : eventForIntegrityDigest E s.tables l.pending.eventDigest = .ok e)
    (hprev : predecessorLineages E s.tables l.pending.eventDigest = .ok previous)
    (hr : Reaches s s')
    (hl' : loadIntegrityLineage E s'.tables l.pending.eventDigest = .ok (some l'))
    (hfin : l'.finalization ≠ none) :
    ∃ y, validateFinalizedIntegrityTransition E.integrity l' e previous.1 previous.2 = .ok y := by
  have hs' := hs.reaches hr
  obtain ⟨r, hlf⟩ := loadIntegrityLineage_some hl
  obtain ⟨r', hlf'⟩ := loadIntegrityLineage_some hl'
  have hmem := mem_of_findBy hlf'.row
  obtain ⟨p, hp, hm⟩ := hs'.modeled_of_pending hmem
  obtain ⟨l₀, e₀, previous₀, -, hl₀, he₀, hprev₀, ha⟩ := hm.retained hs'.cacheSound.keys hp hmem
  have hd : r'.eventDigest = l.pending.eventDigest := key_of_findBy hlf'.row
  rw [hd] at hl₀ he₀ hprev₀
  obtain rfl : l' = l₀ := Option.some.inj (Except.ok.inj (hl'.symm.trans hl₀))
  obtain rfl := hr.eventForIntegrityDigest_eq hs.cacheSound he he₀
  have hsame := hr.predecessorLineages_eq hs.cacheSound (mem_of_findBy hlf.row)
  rw [key_of_findBy hlf.row, hprev₀, hprev] at hsame
  rw [← Except.ok.inj hsame]
  exact ha.finalization hfin

/-- A recovery that fails leaves its transition unresolved. -/
theorem recoverLineage_error (hs : s.Reachable)
    (hl : loadIntegrityLineage E s.tables l.pending.eventDigest = .ok (some l))
    (hopen : l.finalization = none)
    (hu : unresolvedIntegrityDigest s.tables = .ok (some l.pending.eventDigest))
    (h : Ends (sequential i) s (F.recoverLineage l) (.error x) s') :
    unresolvedIntegrityDigest s'.tables = .ok (some l.pending.eventDigest) := by
  unfold Facade.recoverLineage at h
  have hs₀ := hs.cacheSound
  rcases ends_bind.mp h with ⟨e, s₁, h₁, h⟩ | ⟨_, -, h₁⟩
  swap
  · exact ends_unresolved commits_eventForLineage h₁ hs₀ hu
  have he := ends_eventForLineage h₁
  have hr₁ := ends_reaches sequential_reaches h₁
  have heq₁ := ends_tables_eq commits_eventForLineage h₁ hs₀
  rcases ends_bind.mp h with ⟨previous, s₂, h₂, h⟩ | ⟨_, -, h₂⟩
  swap
  · exact ends_unresolved commits_retainedPredecessors h₂ (hs₀.reaches hr₁.foreignReaches)
      (heq₁ ▸ hu)
  have hprev := ends_retainedPredecessors h₂
  have hr₂ := hr₁.trans (ends_reaches sequential_reaches h₂)
  have heq₂ := (ends_tables_eq commits_retainedPredecessors h₂
    (hs₀.reaches hr₁.foreignReaches)).trans heq₁
  rcases ends_checked_cases h with ⟨⟨⟩, -, h⟩ | ⟨-, rfl⟩
  swap
  · exact heq₂ ▸ hu
  rcases ends_checked_cases h with ⟨⟨⟩, -, h⟩ | ⟨-, rfl⟩
  swap
  · exact heq₂ ▸ hu
  have hs₂ := hs₀.reaches hr₂.foreignReaches
  rcases ends_bind.mp h with ⟨⟨⟩, s₃, h₃, h⟩ | ⟨_, -, h₃⟩
  swap
  · exact ends_unresolved commits_adapter h₃ hs₂ (heq₂ ▸ hu)
  have hr₃ := hr₂.trans (ends_reaches sequential_reaches h₃)
  have heq₃ := (ends_tables_eq commits_adapter h₃ hs₂).trans heq₂
  have hs₃ := hs₀.reaches hr₃.foreignReaches
  have hu₃ := heq₃ ▸ hu
  rcases ends_bind.mp h with ⟨a, s₄, h₄, h⟩ | ⟨_, -, h₄⟩
  swap
  · exact ends_unresolved (commits_anchorOf.mono fun _ _ => Advances.phase) h₄ hs₃ hu₃
  have hu₄ := ends_unresolved (commits_anchorOf.mono fun _ _ => Advances.phase) h₄ hs₃ hu₃
  have hl₄ := anchorOf_loaded hs₃ (heq₃ ▸ hl) h₄
  have hr₄ := hr₃.trans (ends_reaches sequential_reaches h₄)
  have hs₄ := hs₀.reaches hr₄.foreignReaches
  rcases ends_checked_cases h with ⟨l₁, hl₁, h⟩ | ⟨-, rfl⟩
  swap
  · exact hu₄
  obtain ⟨rfl, -⟩ := construct_eq_ok hl₁
  have hd : e.eventDigest = l.pending.eventDigest := (eventForIntegrityDigest_eq_ok he).1
  rcases ends_bind.mp h with ⟨c, s₅, h₅, h⟩ | ⟨_, -, h₅⟩
  swap
  · exact ends_unresolved (commits_candidateOf.mono fun _ _ => Advances.phase) h₅ hs₄ hu₄
  have hu₅ := ends_unresolved (commits_candidateOf.mono fun _ _ => Advances.phase) h₅ hs₄ hu₄
  have hl₅ := candidateOf_loaded (l := ⟨l.pending, some a, l.checkpointCandidate, l.finalization⟩)
    hs₄ hl₄ rfl hd h₅
  have hr₅ := hr₄.trans (ends_reaches sequential_reaches h₅)
  have hs₅ := hs₀.reaches hr₅.foreignReaches
  rcases ends_checked_cases h with ⟨l₂, hl₂, h⟩ | ⟨-, rfl⟩
  swap
  · exact hu₅
  obtain ⟨rfl, -⟩ := construct_eq_ok hl₂
  rcases ends_bind.mp h with ⟨f, s₆, h₆, h⟩ | ⟨_, -, h₆⟩
  · -- After the finalization nothing can fail.
    have hl₆ := finalizationOf_loaded (l := ⟨l.pending, some a, some c, l.finalization⟩)
      hs₅ hl₅ rfl hopen h₆
    have hr₆ := hr₅.trans (ends_reaches sequential_reaches h₆)
    obtain ⟨y, hy⟩ := complete_of_loaded hs hl (heq₁ ▸ he) (heq₂ ▸ hprev) hr₆ hl₆ (by simp)
    have hc := loadIntegrityLineage_construct hl₆
    rcases ends_checked_cases h with ⟨l₃, hl₃, h⟩ | ⟨⟨z, hz⟩, -⟩
    · obtain ⟨rfl, -⟩ := construct_eq_ok hl₃
      rcases ends_checked_cases h with ⟨z, -, h⟩ | ⟨⟨z, hz⟩, -⟩
      · obtain ⟨hx, -⟩ := ends_pure.mp h
        cases hx
      · rw [hy] at hz
        cases hz
    · rw [hc] at hz
      cases hz
  · exact finalizationOf_error hs₅ h₆ hu₅

/-- An advance that fails leaves its transition unresolved. -/
theorem advanceFinality_error (hs : s.Reachable)
    (hl : loadIntegrityLineage E s.tables l.pending.eventDigest = .ok (some l))
    (hopen : l.finalization = none)
    (hu : unresolvedIntegrityDigest s.tables = .ok (some l.pending.eventDigest))
    (h : Ends (sequential i) s (F.advanceFinality l) (.error x) s') :
    unresolvedIntegrityDigest s'.tables = .ok (some l.pending.eventDigest) := by
  unfold Facade.advanceFinality at h
  rcases ends_bind.mp h with ⟨⟨⟩, s₁, h₁, h⟩ | ⟨_, -, h₁⟩
  swap
  · exact ends_unresolved commits_requireUnsealedInstance h₁ hs.cacheSound hu
  have hr₁ := ends_reaches sequential_reaches h₁
  have heq₁ := ends_tables_eq commits_requireUnsealedInstance h₁ hs.cacheSound
  have hs₁ := hs.reaches hr₁
  rcases ends_handle.mp h with ⟨y, hy, -⟩ | ⟨y, s₂, h₂, hblock⟩
  · cases hy
  have hr₂ := hr₁.trans (ends_reaches sequential_reaches h₂)
  refine ends_unresolved commits_retainBlock hblock (hs.reaches hr₂).cacheSound ?_
  rcases ends_bind.mp h₂ with ⟨⟨⟩, s₃, h₃, h₂⟩ | ⟨_, -, h₃⟩
  swap
  · exact ends_unresolved commits_requireRecoveryAuthorization h₃ hs₁.cacheSound (heq₁ ▸ hu)
  have heq₃ := (ends_tables_eq commits_requireRecoveryAuthorization h₃ hs₁.cacheSound).trans heq₁
  have hs₃ := hs₁.reaches (ends_reaches sequential_reaches h₃)
  rcases ends_handle.mp h₂ with ⟨z, hz, -⟩ | ⟨z, s₄, h₄, hraise⟩
  · cases hz
  obtain ⟨-, rfl⟩ := ends_raise.mp hraise
  exact recoverLineage_error hs₃ (heq₃ ▸ hl) hopen (heq₃ ▸ hu) h₄

end Recovery

/-! ## A failed append -/

/-- What a recovery of the unresolved transition may have done : nothing if there was
none, and otherwise it added rows of that transition. -/
def Recovered (t t' : E.Db) : Prop :=
  unresolvedIntegrityDigest t = .ok none ∧ t' = t ∨
    ∃ d, unresolvedIntegrityDigest t = .ok (some d) ∧ ExtendedBy d t t'

/-- `t'` is `t` with the event added as the one unresolved transition, at some phase. -/
structure LeftUnresolved (e : EventV1) (t t' : E.Db) : Prop where
  clear : unresolvedIntegrityDigest t = .ok none
  absent : ¬t.RetainsEvent e
  retained : t'.RetainsEvent e
  unresolved : unresolvedIntegrityDigest t' = .ok (some e.eventDigest)
  phase : ∃ l, loadIntegrityLineage E t' e.eventDigest = .ok (some l) ∧ l.phase ≠ .finalized
  extended : ExtendedBy e.eventDigest t t'
  others : ∀ x, x ≠ e.eventDigest → loadIntegrityLineage E t' x = loadIntegrityLineage E t x

section Append

variable {F : Facade E} {i : ℕ} {s s' : Sys E} {ρ : Type} {t t' : E.Db}

theorem Sys.Reachable.unresolved_ok (hs : s.Reachable) :
    ∃ o, unresolvedIntegrityDigest s.tables = .ok o := by
  rcases hs.accepted with hfresh | hacc
  · exact ⟨none, by rw [hfresh]; rfl⟩
  · cases hp : s.tables.profile with
    | legacy =>
      have hnil := ((accepted_legacy hp).mp hacc).pending
      exact ⟨none, unresolvedIntegrityDigest_none (by simp [hnil])⟩
    | modeled p =>
      exact (hs.modeledAccepted hp).structured.unresolvedIntegrityDigest_ok hs.cacheSound.keys

theorem ends_recoverPendingTransition (hs : s.Reachable)
    {r : Except Raised (Option FinalizedIntegrityTransitionV1)}
    (h : Ends (sequential i) s F.recoverPendingTransition r s') :
    Recovered s.tables s'.tables := by
  obtain ⟨o, hu⟩ := hs.unresolved_ok
  cases o with
  | none =>
    refine .inl ⟨hu, visits_sequential (I := fun t => t = s.tables)
      commits_recoverPendingTransition ?_ h.visits hs.cacheSound rfl⟩
    rintro t t' hk hacc hw rfl
    obtain ⟨d, hd⟩ := hw.exists_unresolved hk hacc
    rw [hu] at hd
    cases hd
  | some d =>
    exact .inr ⟨d, hu, ends_extendedBy commits_recoverPendingTransition h hs.cacheSound hu⟩

/-- The handler of a stale head only reads. -/
theorem commits_reconcile {W : E.Db → E.Db → Prop} {r : PendingRequest E} {stale : StoreError} :
    Commits W (ofProgram (r.reconcile stale)) := by
  unfold PendingRequest.reconcile Program.guarded
  split
  · exact commits_done
  refine commits_ofProgram_read (q := fun t => loadIntegrityLineage E t _) (fun _ _ => rfl)
    fun y => ?_
  cases y with
  | error x => exact commits_done
  | ok lineage =>
    refine commits_ofProgram_read (q := fun t => loadIntegrityEvent E t _) (fun _ _ => rfl)
      fun y => ?_
    cases y with
    | error x => exact commits_done
    | ok retained =>
      cases lineage with
      | none => exact commits_done
      | some l =>
        dsimp only
        split_ifs
        · refine commits_ofProgram_read (q := fun t => predecessorLineages E t _) (fun _ _ => rfl)
            fun y => ?_
          cases y with
          | error x => exact commits_done
          | ok previous => exact ⟨trivial, fun _ => commits_done⟩
        · exact commits_done
        · exact commits_done

/-- A store operation whose first transaction is this one. -/
theorem ends_ofProgram_transaction {σ : Type} {x : Txn E σ}
    {next : Except StoreError σ → Program E ρ} {r : Except Raised ρ}
    (h : Ends (sequential i) s (ofProgram (.transaction x next)) r s') :
    ∃ y s₁, Step s i x y s₁ ∧ Ends (sequential i) s₁ (ofProgram (next y)) r s' := by
  obtain ⟨y, s₁, ⟨_, rfl, hstep⟩, hn⟩ := ends_call.mp h
  exact ⟨y, s₁, hstep, hn⟩

theorem Step.appendWritten {r : PendingRequest E} {e : EventV1}
    (hs : Step s i (.appendVerifiedEvent r.append) (.ok e) s') :
    e = r.event ∧ AppendWritten r.event r.pending s.tables s'.tables := by
  cases hs with
  | unchanged _ hx =>
    obtain ⟨u, hu, -⟩ := appendVerifiedEvent_spec (transact_eq_ok.mp hx).2
    simp at hu
  | wrote _ hx _ =>
    obtain ⟨u, hu, -, hrows, hcheck, hfk⟩ := appendVerifiedEvent_spec (transact_eq_ok.mp hx).2
    obtain ⟨⟨rfl, -⟩, rfl⟩ := by simpa using hu
    exact ⟨rfl, appendRows_modeled (x := r.pending) (b := r.bundles) rfl hrows hcheck hfk⟩

/-- A pending append of a new event raises and changes nothing, or it adds the event. -/
theorem ends_appendPending_cases (hs : CacheSound s) {r : PendingRequest E}
    (hfresh : ∀ q ∈ s.tables.pending, q.eventDigest ≠ r.event.eventDigest)
    {y : Except Raised EventV1}
    (h : Ends (sequential i) s (ofProgram (appendPendingIntegrityEvent r)) y s') :
    (∃ x, y = .error x) ∧ s'.tables = s.tables ∨
      y = .ok r.event ∧ AppendWritten r.event r.pending s.tables s'.tables := by
  obtain ⟨z, s₁, hstep₁, h⟩ := ends_ofProgram_transaction h
  have heq₁ := (hstep₁.read (q := fun t => .ok (acceptanceMode t)) fun _ _ => rfl).1
  have hs₁ := hs.step hstep₁
  cases z with
  | error x =>
    obtain ⟨rfl, rfl⟩ := ends_done.mp h
    exact .inl ⟨⟨_, rfl⟩, heq₁⟩
  | ok mode =>
    dsimp only at h
    split_ifs at h
    · obtain ⟨rfl, rfl⟩ := ends_done.mp h
      exact .inl ⟨⟨_, rfl⟩, heq₁⟩
    unfold Program.guarded at h
    split at h
    · obtain ⟨rfl, rfl⟩ := ends_done.mp h
      exact .inl ⟨⟨_, rfl⟩, heq₁⟩
    obtain ⟨z, s₂, hstep₂, h⟩ := ends_ofProgram_transaction h
    cases z with
    | ok e =>
      obtain ⟨rfl, hw⟩ := hstep₂.appendWritten
      obtain ⟨rfl, rfl⟩ := ends_done.mp h
      exact .inr ⟨rfl, heq₁ ▸ hw⟩
    | error x =>
      left
      have heq₂ : s₂.tables = s₁.tables := by
        rcases hstep₂.tables with heq | ⟨reply, published, hx, -⟩
        · exact heq
        · cases hx
      dsimp only at h
      split_ifs at h
      · have hs₂ := hs₁.step hstep₂
        have heq := (ends_tables_eq commits_reconcile h hs₂).trans (heq₂.trans heq₁)
        refine ⟨?_, heq⟩
        obtain ⟨w, own, rfl, hexec⟩ := ends_ofProgram sequential_reaches h
        cases w with
        | error x => exact ⟨_, rfl⟩
        | ok e =>
          -- The handler returns only what is retained, and this event is not.
          obtain ⟨-, hret⟩ := hexec.reconcile_retained hs₂
          obtain ⟨q, hq, hqd, -⟩ := hret.dossier
          exact absurd hqd (hfresh q (heq ▸ hq))
      · obtain ⟨rfl, rfl⟩ := ends_done.mp h
        exact ⟨⟨_, rfl⟩, heq₂.trans heq₁⟩

theorem loadIntegrityEvent_none {d : Digest} (h : loadIntegrityEvent E t d = .ok none) :
    ∀ q ∈ t.pending, q.eventDigest ≠ d := by
  unfold loadIntegrityEvent at h
  obtain ⟨-, h⟩ := unit_bind_eq_ok.mp h
  split_ifs at h with hq
  · obtain ⟨e, -, h⟩ := bind_eq_ok.mp h
    simp [pure, Except.pure] at h
  · push Not at hq
    exact hq

/-- The unresolved transition has a lineage that is not finalized. -/
theorem Sys.Reachable.unresolved_phase (hs : s.Reachable) {d : Digest}
    (hu : unresolvedIntegrityDigest s.tables = .ok (some d)) :
    ∃ l, loadIntegrityLineage E s.tables d = .ok (some l) ∧ l.finalization = none := by
  have hk := hs.cacheSound.keys
  have hpend : s.tables.pending ≠ [] := by
    intro hnil
    rw [unresolvedIntegrityDigest_none (by simp [hnil])] at hu
    cases hu
  obtain ⟨q, hq⟩ := List.exists_mem_of_ne_nil _ hpend
  obtain ⟨p, hp, hm⟩ := hs.modeled_of_pending hq
  obtain ⟨init, r, horder, rfl, -, -, hopen⟩ := hm.structured.unresolved_last hk hu
  have hr : r ∈ s.tables.pending := mem_instanceOrder.mp (by simp [horder])
  obtain ⟨l, -, -, hlf, hl, -⟩ := hm.retained hk hp hr
  refine ⟨l, hl, ?_⟩
  by_contra hfin
  exact hopen (hlf.finalization_ne_none.mp hfin)

/-- An appended transition is the unresolved one. -/
theorem AppendWritten.unresolved (hs : s.Reachable) {e : EventV1}
    {x : PendingIntegrityTransitionV1} (hw : AppendWritten e x t s.tables) :
    unresolvedIntegrityDigest s.tables = .ok (some e.eventDigest) := by
  obtain ⟨p, -, hm⟩ := hs.modeled_of_pending (r := .ofRecord E.integrity x) (by simp [hw.pending])
  exact hm.structured.unresolved_of_unfinalized hs.cacheSound.keys hw.loaded rfl

/-- What an append leaves when the advance after it fails. -/
theorem AppendWritten.leftUnresolved {s₀ : Sys E} (hs₀ : s₀.Reachable) (hs : s.Reachable)
    {e : EventV1} {x : PendingIntegrityTransitionV1}
    (hw : AppendWritten e x s₀.tables s.tables)
    (hext : ExtendedBy e.eventDigest s.tables s'.tables) (hr : Reaches s s')
    (hu : unresolvedIntegrityDigest s'.tables = .ok (some e.eventDigest)) :
    LeftUnresolved e s₀.tables s'.tables := by
  obtain ⟨p, hp, -⟩ := hs.modeled_of_pending (r := .ofRecord E.integrity x) (by simp [hw.pending])
  have hm := hs₀.modeledAccepted (hw.grows.profile.symm.trans hp)
  have hext₀ := hw.grows.extendedBy.trans hext
  obtain ⟨l, hl, hopen⟩ := (hs.reaches hr).unresolved_phase hu
  refine ⟨unresolvedIntegrityDigest_none hw.allFinalized, ?_, ?_, hu, ⟨l, hl, ?_⟩, hext₀,
    fun y hy => hext₀.loadIntegrityLineage_eq hm.foreignKeys hy⟩
  · rintro ⟨row, hrow, hd, -⟩
    obtain ⟨q, hq, hqd, -⟩ := hm.structured.event row hrow
    exact hw.fresh q hq (hqd.trans hd)
  · exact hr.retainsEvent hs.cacheSound (retainsEvent_of_load hw.retained)
  · simp [IntegrityLineageV1.phase, hopen]
    split_ifs <;> simp

/-- An append that raises has at most recovered the older transition, or it leaves its
event as the unresolved one. -/
theorem appendAndFinalize_error (hs : s.Reachable) {e : EventV1} {expectedHead : Digest}
    {staging : Option E.Staging} {x : Raised}
    (h : Ends (sequential i) s (F.appendAndFinalize e expectedHead staging) (.error x) s') :
    ∃ t, Recovered s.tables t ∧ (s'.tables = t ∨ LeftUnresolved e t s'.tables) := by
  unfold Facade.appendAndFinalize at h
  rcases ends_bind.mp h with ⟨f, s₁, h₁, h⟩ | ⟨_, -, h₁⟩
  swap
  · exact ⟨_, ends_recoverPendingTransition hs h₁, .inl rfl⟩
  refine ⟨s₁.tables, ends_recoverPendingTransition hs h₁, ?_⟩
  have hs₁ := hs.reaches (ends_reaches sequential_reaches h₁)
  rcases ends_bind.mp h with ⟨o, s₂, h₂, h⟩ | ⟨_, -, h₂⟩
  swap
  · exact .inl (ends_tables_eq (commits_read fun _ _ => rfl) h₂ hs₁.cacheSound)
  have heq₂ := ends_tables_eq (commits_read fun _ _ => rfl) h₂ hs₁.cacheSound
  have hs₂ := hs₁.reaches (ends_reaches sequential_reaches h₂)
  obtain ⟨-, ho⟩ := ends_read (q := fun t => loadIntegrityEvent E t _) sequential_reaches
    (fun _ _ => rfl) h₂
  cases o with
  | some retained =>
    exact .inl ((ends_tables_eq commits_confirmRetained h hs₂.cacheSound).trans heq₂)
  | none =>
    rcases ends_bind.mp h with ⟨previous, s₃, h₃, h⟩ | ⟨_, -, h₃⟩
    swap
    · exact .inl ((ends_tables_eq commits_latestPredecessors h₃ hs₂.cacheSound).trans heq₂)
    have heq₃ := (ends_tables_eq commits_latestPredecessors h₃ hs₂.cacheSound).trans heq₂
    have hs₃ := hs₂.reaches (ends_reaches sequential_reaches h₃)
    rcases ends_bind.mp h with ⟨⟨p, bundles⟩, s₄, h₄, h⟩ | ⟨_, -, h₄⟩
    swap
    · exact .inl ((ends_tables_eq commits_proposePending h₄ hs₃.cacheSound).trans heq₃)
    have heq₄ := (ends_tables_eq commits_proposePending h₄ hs₃.cacheSound).trans heq₃
    have hs₄ := hs₃.reaches (ends_reaches sequential_reaches h₄)
    have hfresh := loadIntegrityEvent_none ho
    rw [heq₂, ← heq₄] at hfresh
    rcases ends_bind.mp h with ⟨retained, s₅, h₅, h⟩ | ⟨_, -, h₅⟩
    swap
    · rcases ends_appendPending_cases hs₄.cacheSound hfresh h₅ with ⟨-, heq₅⟩ | ⟨hy, -⟩
      · exact .inl (heq₅.trans heq₄)
      · cases hy
    have hs₅ := hs₄.reaches (ends_reaches sequential_reaches h₅)
    rcases ends_appendPending_cases hs₄.cacheSound hfresh h₅ with ⟨⟨y, hy⟩, -⟩ | ⟨hy, hw⟩
    · cases hy
    have hsame : e = retained := (Except.ok.inj hy).symm
    subst hsame
    rw [heq₄] at hw
    right
    -- From here on only phases of the new transition and its blocks are written.
    have hu₅ := hw.unresolved hs₅
    have hleft {z : Sys E} (hr : Reaches s₅ z) (hext : ExtendedBy e.eventDigest s₅.tables z.tables)
        (hu : unresolvedIntegrityDigest z.tables = .ok (some e.eventDigest)) :
        LeftUnresolved e s₁.tables z.tables := hw.leftUnresolved hs₁ hs₅ hext hr hu
    rcases ends_bind.mp h with ⟨o, s₆, h₆, h⟩ | ⟨_, -, h₆⟩
    swap
    · have heq₆ := ends_tables_eq (commits_read fun _ _ => rfl) h₆ hs₅.cacheSound
      exact hleft (ends_reaches sequential_reaches h₆) (heq₆ ▸ .refl) (heq₆ ▸ hu₅)
    have heq₆ := ends_tables_eq (commits_read fun _ _ => rfl) h₆ hs₅.cacheSound
    have hr₆ := ends_reaches sequential_reaches h₆
    obtain ⟨-, hl⟩ := ends_read (q := fun t => loadIntegrityLineage E t _) sequential_reaches
      (fun _ _ => rfl) h₆
    have hnew := hw.loaded
    rw [← heq₆] at hnew
    obtain rfl : o = _ := Except.ok.inj (hl.symm.trans hnew)
    have hd := loadIntegrityLineage_eventDigest hl
    rcases ends_bind.mp h with ⟨completed, s₇, h₇, h⟩ | ⟨_, -, h₇⟩
    · -- The advance succeeded, so nothing after it raises.
      obtain ⟨hfin, -⟩ := ends_advanceFinality sequential_reaches (hs₅.reaches hr₆).cacheSound
        (.inl rfl) h₇
      obtain ⟨f, hf⟩ := Option.ne_none_iff_exists'.mp hfin
      rcases ends_bind.mp h with ⟨g, s₈, -, h₈⟩ | ⟨_, -, h₈⟩
      · obtain ⟨hx, -⟩ := ends_pure.mp h₈
        cases hx
      · unfold requireReached at h₈
        rw [hf] at h₈
        obtain ⟨hx, -⟩ := ends_pure.mp h₈
        cases hx
    · have hs₆ := hs₅.reaches hr₆
      have hu₆ := heq₆ ▸ hu₅
      have hext := ends_extendedBy commits_advanceFinality h₇ hs₆.cacheSound hu₆
      rw [← hd] at hl hu₆
      have hu₇ := advanceFinality_error hs₆ hl rfl hu₆ h₇
      rw [hd] at hu₇
      rw [heq₆] at hext
      exact hleft (hr₆.trans (ends_reaches sequential_reaches h₇)) hext hu₇

end Append

/-! ## The guarantee of an enrolled facade -/

section Enrolled

variable {F₀ F : Facade E} {i : ℕ} {s₀ s₁ s s' : Sys E}

theorem enrollModeledIntegrity_unchanged {cap : ℕ} {t : E.Db} {p : ModeledProfile} {u : Unit}
    (h : enrollModeledIntegrity E cap t p = .ok (.unchanged, u)) : t.profile = .modeled p := by
  unfold enrollModeledIntegrity at h
  split_ifs at h with hsame
  · exact hsame
  · obtain ⟨-, h⟩ := unit_bind_eq_ok.mp h
    obtain ⟨-, h⟩ := unit_bind_eq_ok.mp h
    obtain ⟨-, h⟩ := unit_bind_eq_ok.mp h
    obtain ⟨v, -, h⟩ := bind_eq_ok.mp h
    obtain ⟨-, h⟩ := unit_bind_eq_ok.mp h
    obtain ⟨w, -, h⟩ := bind_eq_ok.mp h
    simp [pure, Except.pure] at h

theorem Step.profile_modeled {p : ModeledProfile} {u : Unit}
    (hs : Step s i (.enrollModeledIntegrity p) (.ok u) s') : s'.tables.profile = .modeled p := by
  cases hs with
  | unchanged _ hx => exact enrollModeledIntegrity_unchanged (transact_eq_ok.mp hx).2
  | wrote _ hx _ =>
    have hw := enrollModeledIntegrity_wrote (transact_eq_ok.mp hx).2
    rw [hw.eq]

/-- The modeled profile of a store is never replaced. -/
theorem Reaches.profile_eq (hs : s.Reachable) (hr : Reaches s s') {p : ModeledProfile}
    (hp : s.tables.profile = .modeled p) : s'.tables.profile = .modeled p := by
  refine hr.invariant (P := fun t => t.profile = .modeled p) ?_ hs.cacheSound hp
  rintro σ y cap t t' published reply hk hacc hp hx
  have hm := (accepted_modeled hk hp).mp hacc
  exact ((Txn.body_written hx).keepsLineages hk hp hm).profile.trans hp

/-- A facade that was constructed works on a modeled store. -/
theorem ends_enroll (hs : s.Reachable) (h : Ends (interleaved i) s F₀.enroll (.ok F) s') :
    ∃ p, s'.tables.profile = .modeled p := by
  unfold Facade.enroll at h
  obtain ⟨⟨⟩, s₁, h₁, h⟩ := ends_bind_ok.mp h
  obtain ⟨s₂, hr, hstep⟩ := ends_storeCall_ok.mp h₁
  have hs₁ := (hs.reaches hr).reaches (Reaches.refl.step hstep)
  exact ⟨_, (ends_reaches (fun _ _ h => h) h).profile_eq hs₁ hstep.profile_modeled⟩

/-- Whatever the adapter does at its calls, and whatever else uses the store, every event
that an append of an enrolled facade returns, or that its load shows, has a retained
finalization that validates against its retained predecessors. When an append raises in
a sequential run, the store holds what it held after the recovery of an older unresolved
transition, which adds rows of that transition only, or the event was added as the one
unresolved transition, at some phase, and no row of another transition. -/
theorem append_finality (h₀ : s₀.Reachable) (henroll : Ends (interleaved i) s₀ F₀.enroll (.ok F) s₁)
    (hrun : Reaches s₁ s) :
    (∀ e expectedHead staging e' s',
      Ends (interleaved i) s (F.appendAndFinalize e expectedHead staging) (.ok e') s' →
        e' = e ∧ HasFinality s'.tables e) ∧
    (∀ m es s', Ends (interleaved i) s (F.load m) (.ok es) s' →
      ∀ e ∈ es, HasFinality s'.tables e) ∧
    ∀ e expectedHead staging x s',
      Ends (sequential i) s (F.appendAndFinalize e expectedHead staging) (.error x) s' →
        ∃ t, Recovered s.tables t ∧ (s'.tables = t ∨ LeftUnresolved e t s'.tables) := by
  have hB : ∀ a b : Sys E, Reaches a b → Reaches a b := fun _ _ h => h
  have hs₁ := h₀.reaches (ends_reaches hB henroll)
  have hs := hs₁.reaches hrun
  obtain ⟨p, hp₁⟩ := ends_enroll h₀ henroll
  have hp := hrun.profile_eq hs₁ hp₁
  refine ⟨fun e expectedHead staging e' s' h => ?_, fun m es s' h e he => ?_,
    fun e expectedHead staging x s' h => appendAndFinalize_error hs h⟩
  · obtain ⟨hsame, hret, hfin⟩ := ends_appendAndFinalize hB hs.cacheSound h
    exact ⟨hsame, (hs.reaches (ends_reaches hB h)).hasFinality hret hfin⟩
  · obtain ⟨hu, hret⟩ := ends_load hB hs h
    have hr := ends_reaches hB h
    have hs' := hs.reaches hr
    have hm := hs'.modeledAccepted (hr.profile_eq hs hp)
    exact hs'.hasFinality (hret e he)
      (hm.structured.isFinalized_of_resolved hs'.cacheSound.keys hu (hret e he))

end Enrolled

/-- The sample mission's first event is served, or it is left unresolved. -/
theorem append_finality_sample :
    HasFinality (sampleScript.append sampleServed sampleFirst).2.tables sampleFirst ∧
    (∀ es s', Ends (interleaved 0) (sampleScript.append sampleServed sampleFirst).2
      (sampleFacade.load 100) (.ok es) s' → ∀ e ∈ es, HasFinality s'.tables e) ∧
    ∃ t, Recovered sampleServed.tables t ∧
      (sampleStalled.tables = t ∨ LeftUnresolved sampleFirst t sampleStalled.tables) := by
  have h₀ : sampleOpened.Reachable := ⟨sampleOpened, rfl, fun _ => rfl, .refl⟩
  have henroll : Ends (interleaved 0) sampleOpened sampleFacade.enroll (.ok sampleFacade)
      sampleServed := ends_interleaved (sampleScript.run_ends 0 _ _)
  have happend : Ends (sequential 0) sampleServed
      (sampleFacade.appendAndFinalize sampleFirst sampleFirst.prevDigest (some ()))
      (.ok sampleFirst) (sampleScript.append sampleServed sampleFirst).2 := by
    have hok : (sampleScript.append sampleServed sampleFirst).1 = .ok sampleFirst := by
      decide +kernel
    exact hok ▸ sampleScript.run_ends 0 _ _
  have hfail : ∃ x, Ends (sequential 0) sampleServed
      (sampleFacade.appendAndFinalize sampleFirst sampleFirst.prevDigest (some ()))
      (.error x) sampleStalled := by
    have herr : ((sampleTimeout "prepare_anchor_statement").append sampleServed sampleFirst).1 =
        .error (Raised.uncertain.ofAdapter "prepare_anchor_statement") := by decide +kernel
    exact ⟨_, herr ▸ (sampleTimeout "prepare_anchor_statement").run_ends 0 _ _⟩
  obtain ⟨x, hfail⟩ := hfail
  obtain ⟨hret, -, hraise⟩ := append_finality h₀ henroll .refl
  obtain ⟨-, hload, -⟩ := append_finality h₀ henroll (ends_reaches sequential_reaches happend)
  exact ⟨(hret _ _ _ _ _ (ends_interleaved happend)).2, hload 100, hraise _ _ _ _ _ hfail⟩

/-- An append that raises may have finalized the older transition : the store is not what
it was, and nothing is unresolved. -/
theorem raising_append_recovers : ∃ (s₁ s s' : Sys sampleEnv) (x : Raised),
    Ends (interleaved 0) sampleOpened sampleFacade.enroll (.ok sampleFacade) s₁ ∧
    Reaches s₁ s ∧ s.Reachable ∧
    Ends (sequential 0) s
      (sampleFacade.appendAndFinalize sampleSecond sampleSecond.prevDigest (some ()))
      (.error x) s' ∧
    s'.tables ≠ s.tables ∧ unresolvedIntegrityDigest s'.tables = .ok none := by
  have h₀ : sampleOpened.Reachable := ⟨sampleOpened, rfl, fun _ => rfl, .refl⟩
  have henroll : Ends (interleaved 0) sampleOpened sampleFacade.enroll (.ok sampleFacade)
      sampleServed := ends_interleaved (sampleScript.run_ends 0 _ _)
  have hrun : Reaches sampleServed sampleStalled :=
    ends_reaches sequential_reaches ((sampleTimeout "prepare_anchor_statement").run_ends 0 _ _)
  let A := sampleTimeout "prepare_pending_transition"
  have herr : (A.append sampleStalled sampleSecond).1 =
      .error (Raised.uncertain.ofAdapter "prepare_pending_transition") := by decide +kernel
  refine ⟨sampleServed, sampleStalled, (A.append sampleStalled sampleSecond).2, _, henroll, hrun,
    (h₀.reaches (ends_reaches (fun _ _ h => h) henroll)).reaches hrun, herr ▸ A.run_ends 0 _ _,
    fun heq => ?_, by decide +kernel⟩
  have hlen : (A.append sampleStalled sampleSecond).2.tables.finalizations.length ≠
      sampleStalled.tables.finalizations.length := by decide +kernel
  exact hlen (by rw [heq])

end Etzio
