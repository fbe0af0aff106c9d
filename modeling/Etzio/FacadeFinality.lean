import Etzio.FinalizingFacade
import Etzio.StorePredecessors
import Etzio.StoreStreams

/-!
# What the facade shows is final

An append of the finalizing facade returns an event, and a load shows it, only with a
retained finalization (`ends_appendAndFinalize`, `ends_load`). The adapter's replies play
no part in it : what was retained was validated by the store, and in every reachable state
a finalized event's lineage validates against its retained predecessors
(`Sys.Reachable.hasFinality`).

`ends_storeCall`, `ends_read` and `ends_checked_bind` take a run of a facade program apart.
-/

open CheckedRun Interaction Rows

namespace Etzio

variable {E : Env}

/-! ## Calls -/

section Calls

variable {B : Sys E → Sys E → Prop} {H : (σ : Type) → Sys E → FacadeCall E σ → σ → Sys E → Prop}
  {i : ℕ} {s s' : Sys E} {ρ : Type}

theorem ends_storeCall {x : Txn E ρ} {r : Except Raised ρ} :
    Ends (facadeCalls B i) s (storeCall x) r s' ↔
      ∃ s₁ y, B s s₁ ∧ Step s₁ i x y s' ∧ r = y.mapError StoreError.raised := by
  unfold storeCall
  rw [ends_call]
  constructor
  · rintro ⟨y, s₂, ⟨s₁, hb, hs⟩, h⟩
    obtain ⟨rfl, rfl⟩ := ends_done.mp h
    exact ⟨s₁, y, hb, hs, rfl⟩
  · rintro ⟨s₁, y, hb, hs, rfl⟩
    exact ⟨y, s', ⟨s₁, hb, hs⟩, .done⟩

theorem ends_storeCall_ok {x : Txn E ρ} {a : ρ} :
    Ends (facadeCalls B i) s (storeCall x) (.ok a) s' ↔ ∃ s₁, B s s₁ ∧ Step s₁ i x (.ok a) s' := by
  rw [ends_storeCall]
  constructor
  · rintro ⟨s₁, y, hb, hs, hy⟩
    cases y with
    | error e => simp [Except.mapError] at hy
    | ok b =>
      obtain rfl := Except.ok.inj hy
      exact ⟨s₁, hb, hs⟩
  · rintro ⟨s₁, hb, hs⟩
    exact ⟨s₁, _, hb, hs, rfl⟩

theorem ends_checked {α : Type} {x : Except IntegrityError α} {r : Except Raised α} :
    Ends H s (checked x) r s' ↔ r = x.mapError .transition ∧ s' = s :=
  ends_done

theorem ends_checked_ok {α : Type} {x : Except IntegrityError α} {a : α} :
    Ends H s (checked x) (.ok a) s' ↔ x = .ok a ∧ s' = s := by
  rw [ends_checked, eq_comm, mapError_eq_ok]

/-- A check that passes and what comes after it, or the error of a check that fails. -/
theorem ends_checked_cases {α : Type} {x : Except IntegrityError α} {f : α → FacadeProg E ρ}
    {r : Except Raised ρ} (h : Ends H s (checked x >>= f) r s') :
    (∃ a, x = .ok a ∧ Ends H s (f a) r s') ∨ (∃ e, x = .error e) ∧ s' = s := by
  rcases ends_bind.mp h with ⟨a, s₁, hx, hf⟩ | ⟨y, -, hx⟩
  · obtain ⟨hok, rfl⟩ := ends_checked_ok.mp hx
    exact .inl ⟨a, hok, hf⟩
  · obtain ⟨hy, rfl⟩ := ends_checked.mp hx
    cases x with
    | ok a => simp [Except.mapError] at hy
    | error e => exact .inr ⟨⟨e, rfl⟩, rfl⟩

/-- A check that passes, and what comes after it. -/
theorem ends_checked_bind {α : Type} {x : Except IntegrityError α} {f : α → FacadeProg E ρ}
    {b : ρ} :
    Ends H s (checked x >>= f) (.ok b) s' ↔ ∃ a, x = .ok a ∧ Ends H s (f a) (.ok b) s' := by
  rw [ends_bind_ok]
  constructor
  · rintro ⟨a, s₁, hx, h⟩
    obtain ⟨hok, rfl⟩ := ends_checked_ok.mp hx
    exact ⟨a, hok, h⟩
  · rintro ⟨a, hx, h⟩
    exact ⟨a, s, ends_checked_ok.mpr ⟨hx, rfl⟩, h⟩

/-- A call takes part in a run of the store when what comes before it does. -/
theorem facadeCalls_reaches (hB : ∀ a b, B a b → Reaches a b) {σ : Type} {c : FacadeCall E σ}
    {y : σ} (h : facadeCalls B i σ s c y s') : Reaches s s' := by
  cases c with
  | transaction x =>
    obtain ⟨s₁, hb, hs⟩ := h
    exact (hB _ _ hb).step hs
  | read => exact hB _ _ h.1
  | adapter c => exact hB _ _ h
  | qualifiedTime => exact hB _ _ h

/-- So does every operation of the facade, wherever it stops. -/
theorem visits_reaches (hB : ∀ a b, B a b → Reaches a b) {p : FacadeProg E ρ}
    (h : Visits (facadeCalls B i) s p s') : Reaches s s' :=
  h.invariant (calls_true p) (fun _ hc ih => ih.trans (facadeCalls_reaches hB hc)) .refl

theorem ends_reaches (hB : ∀ a b, B a b → Reaches a b) {p : FacadeProg E ρ}
    {r : Except Raised ρ} (h : Ends (facadeCalls B i) s p r s') : Reaches s s' :=
  visits_reaches hB h.visits

/-- A sequential run is one that nothing is interleaved with. -/
theorem ends_interleaved {p : FacadeProg E ρ} {r : Except Raised ρ}
    (h : Ends (sequential i) s p r s') : Ends (interleaved i) s p r s' := by
  refine h.mono fun {σ a b c y} hc => ?_
  cases c with
  | transaction x =>
    obtain ⟨_, rfl, hs⟩ := hc
    exact ⟨a, .refl, hs⟩
  | read => exact ⟨hc.1 ▸ .refl, hc.2⟩
  | adapter c =>
    obtain rfl := hc
    exact Reaches.refl
  | qualifiedTime =>
    obtain rfl := hc
    exact Reaches.refl

/-- A read of the store returns what its query says of the tables it leaves. -/
theorem ends_read (hB : ∀ a b, B a b → Reaches a b) {x : Txn E ρ} {q : E.Db → Except StoreError ρ}
    (hbody : ∀ cap t, x.body E cap t = readOnly E (q t)) {a : ρ}
    (h : Ends (facadeCalls B i) s (storeCall x) (.ok a) s') :
    Reaches s s' ∧ q s'.tables = .ok a := by
  obtain ⟨s₁, hb, hs⟩ := ends_storeCall_ok.mp h
  obtain ⟨htables, hread⟩ := hs.read hbody
  exact ⟨(hB _ _ hb).step hs, htables ▸ hread a rfl⟩

end Calls

/-! ## Finality of retained events -/

section Finality

variable {t t' : E.Db} {p : ModeledProfile} {r : PendingRow} {e : EventV1}

/-- Every retained transition authenticates against its retained predecessors. -/
theorem ModeledAccepted.retained (hm : ModeledAccepted t p) (hk : t.Keys)
    (hp : t.profile = .modeled p) (hr : r ∈ t.pending) :
    ∃ l e previous, LoadedFrom t r.eventDigest l r ∧
      loadIntegrityLineage E t r.eventDigest = .ok (some l) ∧
      eventForIntegrityDigest E t r.eventDigest = .ok e ∧
      predecessorLineages E t r.eventDigest = .ok previous ∧
      Authenticated t p e l previous.1 previous.2 := by
  obtain ⟨pre, post, horder⟩ := List.append_of_mem (mem_instanceOrder.mpr hr)
  obtain ⟨u, hu⟩ := hm.replayed
  obtain ⟨s, v, -, hpassed, hstep⟩ := replay_at hk hm.structured hu horder
  obtain ⟨l, e, hl, he, ha, -⟩ := replayStep_eq_ok.mp hstep
  obtain ⟨r', hlf⟩ := loadIntegrityLineage_some hl
  obtain rfl := hlf.row_eq hk hr
  rw [(ha.coordinates hlf).1] at ha
  have hnum := replay_numbered hk hm.structured hu
  exact ⟨l, e, _, hlf, hl, he,
    predecessorLineages_eq hk hm.structured (by simp [hp]) hnum horder hpassed, ha⟩

/-- The event is retained under its digest. -/
def Tables.RetainsEvent {V Q : Type} (t : Tables V Q) (e : EventV1) : Prop :=
  ∃ row ∈ t.events, row.digest = e.eventDigest ∧ row.canonical = e

/-- The event has a retained finalization, whose lineage validates against its retained
predecessors. -/
def HasFinality (t : E.Db) (e : EventV1) : Prop :=
  ∃ l previous x, eventForIntegrityDigest E t e.eventDigest = .ok e ∧
    loadIntegrityLineage E t e.eventDigest = .ok (some l) ∧ l.finalization ≠ none ∧
    predecessorLineages E t e.eventDigest = .ok previous ∧
    validateFinalizedIntegrityTransition E.integrity l e previous.1 previous.2 = .ok x

theorem ModeledAccepted.hasFinality (hm : ModeledAccepted t p) (hk : t.Keys)
    (hp : t.profile = .modeled p) (he : t.RetainsEvent e) (hf : t.IsFinalized e.eventDigest) :
    HasFinality t e := by
  obtain ⟨row, hrow, hd, rfl⟩ := he
  obtain ⟨r, hr, hrd, -⟩ := hm.structured.event row hrow
  obtain ⟨l, e', previous, hlf, hl, he', hprev, ha⟩ := hm.retained hk hp hr
  rw [hrd, hd] at hlf hl he' hprev
  obtain ⟨-, -, row', hrow', hd', rfl⟩ := eventForIntegrityDigest_eq_ok he'
  obtain rfl : row' = row :=
    List.inj_on_of_nodup_map hk.eventDigest hrow' hrow (hd'.trans hd.symm)
  have hfin := hlf.finalization_ne_none.mpr hf
  obtain ⟨x, hx⟩ := ha.finalization hfin
  exact ⟨l, previous, x, he', hl, hfin, hprev, hx⟩

/-- No write takes a finalization away. -/
theorem Written.finalizations_subset (h : Written t t') : t.finalizations ⊆ t'.finalizations := by
  intro f hf
  cases h with
  | appended r v _ _ h => rw [h.eq]; exact hf
  | appendedPending r x p _ _ h => exact h.grows.finalizations.mem hf
  | phase d phase l l' hl h => exact h.grows.finalizations.mem hf
  | observed o h => rw [h.eq]; exact hf
  | decided d h => rw [h.eq]; exact hf
  | recoveryEnrolled x h => rw [h.eq]; exact hf
  | modeledEnrolled p h => rw [h.eq]; exact hf
  | qualifiedEnrolled q h => rw [h.eq]; exact hf
  | checkpointed c h => rw [h.eq]; exact hf

theorem Reaches.retainsEvent {s s' : Sys E} (h : CacheSound s) (hr : Reaches s s')
    (he : s.tables.RetainsEvent e) : s'.tables.RetainsEvent e := by
  obtain ⟨row, hrow, hd⟩ := he
  exact ⟨row, (hr.rows_subset h).1 hrow, hd⟩

theorem Reaches.isFinalized {s s' : Sys E} (h : CacheSound s) (hr : Reaches s s') {d : Digest}
    (hf : s.tables.IsFinalized d) : s'.tables.IsFinalized d := by
  have hsub : s.tables.finalizations ⊆ s'.tables.finalizations :=
    hr.invariant (P := fun t => s.tables.finalizations ⊆ t.finalizations)
      (fun _ _ ih hx => List.Subset.trans ih (Txn.body_written hx).finalizations_subset)
      h (List.Subset.refl _)
  obtain ⟨f, hf, hd⟩ := hf
  exact ⟨f, hsub hf, hd⟩

/-- A reachable state with a pending transition is an accepted modeled one. -/
theorem Sys.Reachable.modeled_of_pending {s : Sys E} (h : s.Reachable)
    (hr : r ∈ s.tables.pending) :
    ∃ p, s.tables.profile = .modeled p ∧ ModeledAccepted s.tables p := by
  rcases h.accepted with hfresh | hacc
  · rw [hfresh] at hr
    exact absurd hr List.not_mem_nil
  · obtain ⟨p, hp⟩ := hacc.modeled_of_pending hr
    exact ⟨p, hp, h.modeledAccepted hp⟩

/-- A finalized event of a reachable state has finality. -/
theorem Sys.Reachable.hasFinality {s : Sys E} (h : s.Reachable) (he : s.tables.RetainsEvent e)
    (hf : s.tables.IsFinalized e.eventDigest) : HasFinality s.tables e := by
  obtain ⟨f, hmem, hd⟩ := hf
  rcases h.accepted with hfresh | hacc
  · rw [hfresh] at hmem
    exact absurd hmem List.not_mem_nil
  · cases hp : s.tables.profile with
    | legacy =>
      rw [((accepted_legacy hp).mp hacc).finalizations] at hmem
      exact absurd hmem List.not_mem_nil
    | modeled p => exact (h.modeledAccepted hp).hasFinality h.cacheSound.keys hp he ⟨f, hmem, hd⟩

end Finality

/-! ## What a successful operation has established -/

section Retained

variable {t : E.Db} {e : EventV1} {d : Digest} {s s' : Sys E} {i : ℕ} {ρ : Type}

theorem loadIntegrityEvent_some (h : loadIntegrityEvent E t d = .ok (some e)) :
    eventForIntegrityDigest E t d = .ok e := by
  unfold loadIntegrityEvent at h
  obtain ⟨-, h⟩ := unit_bind_eq_ok.mp h
  split_ifs at h
  · obtain ⟨x, hx, h⟩ := bind_eq_ok.mp h
    obtain rfl : x = e := Option.some.inj (Except.ok.inj h)
    exact hx
  · simp [pure, Except.pure] at h

theorem retainsEvent_of_load (h : eventForIntegrityDigest E t d = .ok e) : t.RetainsEvent e := by
  obtain ⟨rfl, -, row, hrow, hd, hc⟩ := eventForIntegrityDigest_eq_ok h
  exact ⟨row, hrow, hd, hc⟩

/-- The events of a decoded stream are retained. -/
theorem StreamsDecode.retainsEvent (h : StreamsDecode t) {m : Digest} (he : e ∈ t.stream m) :
    t.RetainsEvent e := by
  obtain ⟨row, hrow, rfl⟩ := List.mem_map.mp he
  obtain ⟨pre, post, hsplit⟩ := List.append_of_mem hrow
  have hdecode := (h m).1
  rw [decodeStream, hsplit] at hdecode
  have hmem : row ∈ t.events := (List.mem_filter.mp (mem_orderBy.mp hrow)).1
  exact ⟨row, hmem, (decodeRows_at hdecode).digest, rfl⟩

/-- Without an unresolved transition every retained event is finalized. -/
theorem Structured.isFinalized_of_resolved (hk : t.Keys) (hs : Structured t)
    (hu : unresolvedIntegrityDigest t = .ok none) (he : t.RetainsEvent e) :
    t.IsFinalized e.eventDigest := by
  obtain ⟨row, hrow, hd, -⟩ := he
  obtain ⟨r, hr, hrd, -⟩ := hs.event row hrow
  rw [← hd, ← hrd]
  unfold unresolvedIntegrityDigest at hu
  rcases hs.order_cases hk with ⟨-, -, hall⟩ | ⟨init, y, -, hy, -⟩
  · exact hall r hr
  · rw [hy] at hu
    simp at hu

/-- What a step that retains a record and returns leaves behind. -/
theorem Step.outcome {x : Txn E ρ} {a y : ρ} {kept : Prop} {written : E.Db → Prop}
    (hs : Step s i x (.ok y) s')
    (hspec : ∀ c, x.body E (s.conns i).maxVaultBytes s.tables = .ok c → Outcome a kept written c) :
    y = a ∧ (s'.tables = s.tables ∧ kept ∨ written s'.tables) := by
  cases hs with
  | unchanged _ h =>
    cases hspec _ (transact_eq_ok.mp h).2 with
    | unchanged hkept => exact ⟨rfl, .inl ⟨rfl, hkept⟩⟩
  | wrote _ h _ =>
    cases hspec _ (transact_eq_ok.mp h).2 with
    | wrote hw => exact ⟨rfl, .inr hw⟩

theorem Step.isFinalized {f g : FinalizedIntegrityTransitionV1} {b : E.Bundles}
    (hs : Step s i (.finalizeIntegrityTransition f b) (.ok g) s') :
    s'.tables.IsFinalized f.eventDigest := by
  obtain ⟨-, ⟨heq, r, hr, hrd, -⟩ | ⟨-, l, c, -, -, hw⟩⟩ :=
    hs.outcome fun _ hc => finalizeIntegrityTransition_spec hc
  · exact ⟨r, heq ▸ hr, hrd⟩
  · exact hw.hasPhase

theorem Step.retainsEvent {r : AppendRequest E}
    (hs : Step s i (.appendVerifiedEvent r) (.ok e) s') :
    s'.tables.RetainsEvent r.event := by
  cases hs with
  | unchanged _ hx =>
    obtain ⟨u, hu, -⟩ := appendVerifiedEvent_spec (transact_eq_ok.mp hx).2
    simp at hu
  | wrote _ hx _ =>
    obtain ⟨u, hu, -, -, hcheck, -⟩ := appendVerifiedEvent_spec (transact_eq_ok.mp hx).2
    obtain ⟨⟨rfl, -⟩, rfl⟩ := by simpa using hu
    exact retainsEvent_of_load (checkAppended_spec hcheck).1

end Retained

section Success

variable {B : Sys E → Sys E → Prop} {i : ℕ} {s s' : Sys E} {F : Facade E}
  {l completed : IntegrityLineageV1} {e e' : EventV1} {d : Digest}

/-- The program of a store operation is executed by the facade's calls. -/
theorem ends_ofProgram (hB : ∀ a b, B a b → Reaches a b) {ρ : Type} {p : Program E ρ}
    {r : Except Raised ρ} (h : Ends (facadeCalls B i) s (ofProgram p) r s') :
    ∃ y own, r = y.mapError StoreError.raised ∧ Exec i s p y own s' := by
  induction p generalizing s with
  | done y =>
    obtain ⟨rfl, rfl⟩ := ends_done.mp h
    exact ⟨y, [], rfl, .done⟩
  | transaction x next ih =>
    obtain ⟨z, s₂, ⟨s₁, hb, hs⟩, h⟩ := ends_call.mp h
    obtain ⟨y, own, rfl, hexec⟩ := ih z h
    exact ⟨y, _, rfl, .transaction (hB _ _ hb) hs hexec⟩
  | read next ih =>
    obtain ⟨z, s₁, ⟨hb, rfl⟩, h⟩ := ends_call.mp h
    obtain ⟨y, own, rfl, hexec⟩ := ih _ h
    exact ⟨y, own, rfl, .read (hB _ _ hb) hexec⟩

theorem proposedFinalization_eq_ok {c : CheckpointCandidateRecordV1} {floor : HeadCheckpointFloorV1}
    {evidence : List ProviderEvidenceBlobV1} {f : FinalizedIntegrityTransitionV1}
    (h : F.proposedFinalization l c floor evidence = .ok f) :
    f.eventDigest = l.pending.eventDigest := by
  unfold Facade.proposedFinalization at h
  obtain ⟨-, h⟩ := unit_bind_eq_ok.mp h
  split_ifs at h
  rw [← Except.ok.inj h]

/-- A finalization that is returned is retained. -/
theorem ends_finalizationOf
    (hfin : l.finalization = none ∨ s.tables.IsFinalized l.pending.eventDigest)
    {c : CheckpointCandidateRecordV1}
    {previous : Option IntegrityLineageV1 × Option IntegrityLineageV1}
    {f : FinalizedIntegrityTransitionV1}
    (h : Ends (facadeCalls B i) s (F.finalizationOf e l c previous) (.ok f) s') :
    s'.tables.IsFinalized l.pending.eventDigest := by
  unfold Facade.finalizationOf at h
  split at h
  · obtain ⟨-, s₁, -, h⟩ := ends_bind_ok.mp h
    obtain ⟨⟨floor, evidence⟩, s₂, -, h⟩ := ends_bind_ok.mp h
    obtain ⟨g, s₃, hg, h⟩ := ends_bind_ok.mp h
    obtain ⟨-, s₄, -, h⟩ := ends_bind_ok.mp h
    obtain ⟨s₅, -, hstep⟩ := ends_storeCall_ok.mp h
    rw [← proposedFinalization_eq_ok (ends_checked_ok.mp hg).1]
    exact hstep.isFinalized
  · rename_i g hg
    obtain ⟨-, rfl⟩ := ends_pure.mp h
    exact hfin.resolve_left (by simp [hg])

/-- A completed recovery has retained a finalization. -/
theorem ends_recoverLineage (hB : ∀ a b, B a b → Reaches a b) (hs : CacheSound s)
    (hfin : l.finalization = none ∨ s.tables.IsFinalized l.pending.eventDigest)
    (h : Ends (facadeCalls B i) s (F.recoverLineage l) (.ok completed) s') :
    completed.finalization ≠ none ∧ s'.tables.IsFinalized l.pending.eventDigest := by
  unfold Facade.recoverLineage at h
  obtain ⟨e, s₁, h₁, h⟩ := ends_bind_ok.mp h
  obtain ⟨previous, s₂, h₂, h⟩ := ends_bind_ok.mp h
  obtain ⟨-, -, h⟩ := ends_checked_bind.mp h
  obtain ⟨-, -, h⟩ := ends_checked_bind.mp h
  obtain ⟨⟨⟩, s₃, h₃, h⟩ := ends_bind_ok.mp h
  obtain ⟨a, s₄, h₄, h⟩ := ends_bind_ok.mp h
  obtain ⟨l₁, hl₁, h⟩ := ends_checked_bind.mp h
  obtain ⟨c, s₅, h₅, h⟩ := ends_bind_ok.mp h
  obtain ⟨l₂, hl₂, h⟩ := ends_checked_bind.mp h
  obtain ⟨f, s₆, h₆, h⟩ := ends_bind_ok.mp h
  obtain ⟨l₃, hl₃, h⟩ := ends_checked_bind.mp h
  obtain ⟨x, -, h⟩ := ends_checked_bind.mp h
  obtain ⟨hl, rfl⟩ := ends_pure.mp h
  obtain ⟨rfl, -⟩ := construct_eq_ok hl₁
  obtain ⟨rfl, -⟩ := construct_eq_ok hl₂
  obtain ⟨rfl, -⟩ := construct_eq_ok hl₃
  obtain rfl := Except.ok.inj hl
  have hr : Reaches s s₅ := ((((ends_reaches hB h₁).trans (ends_reaches hB h₂)).trans
    (ends_reaches hB h₃)).trans (ends_reaches hB h₄)).trans (ends_reaches hB h₅)
  have hfin' : l.finalization = none ∨ s₅.tables.IsFinalized l.pending.eventDigest :=
    hfin.imp_right (hr.isFinalized hs)
  exact ⟨Option.some_ne_none f, ends_finalizationOf
    (l := ⟨l.pending, some a, some c, l.finalization⟩) hfin' h₆⟩

/-- A retained block is raised again. -/
theorem not_ends_retainBlock_ok {x : Raised}
    {H : (σ : Type) → Sys E → FacadeCall E σ → σ → Sys E → Prop} :
    ¬Ends H s (F.retainBlock l x) (.ok completed) s' := by
  unfold Facade.retainBlock
  cases x with
  | finalityBlocked e o =>
    intro h
    obtain ⟨-, s₁, -, h⟩ := ends_bind_ok.mp h
    obtain ⟨hx, -⟩ := ends_raise.mp h
    cases hx
  | _ =>
    intro h
    obtain ⟨hx, -⟩ := ends_raise.mp h
    cases hx

/-- So has a completed advance. -/
theorem ends_advanceFinality (hB : ∀ a b, B a b → Reaches a b) (hs : CacheSound s)
    (hfin : l.finalization = none ∨ s.tables.IsFinalized l.pending.eventDigest)
    (h : Ends (facadeCalls B i) s (F.advanceFinality l) (.ok completed) s') :
    completed.finalization ≠ none ∧ s'.tables.IsFinalized l.pending.eventDigest := by
  unfold Facade.advanceFinality at h
  obtain ⟨⟨⟩, s₁, h₁, h⟩ := ends_bind_ok.mp h
  rcases ends_handle.mp h with ⟨y, hy, hok⟩ | ⟨x, s₂, -, hblock⟩
  · obtain rfl := Except.ok.inj hy
    obtain ⟨⟨⟩, s₂, h₂, h₃⟩ := ends_bind_ok.mp hok
    have hr := (ends_reaches hB h₁).trans (ends_reaches hB h₂)
    exact ends_recoverLineage hB (hs.reaches hr.foreignReaches)
      (hfin.imp_right (hr.isFinalized hs)) (ends_handle_raise_ok.mp h₃)
  · exact absurd hblock not_ends_retainBlock_ok

/-- A pending append that returns has retained its event. -/
theorem ends_appendPending (hB : ∀ a b, B a b → Reaches a b) (hs : CacheSound s)
    {r : PendingRequest E}
    (h : Ends (facadeCalls B i) s (ofProgram (appendPendingIntegrityEvent r)) (.ok e) s') :
    e = r.event ∧ s'.tables.RetainsEvent r.event := by
  obtain ⟨y, own, hy, hexec⟩ := ends_ofProgram hB h
  have hok : y = .ok e := mapError_eq_ok.mp hy.symm
  subst hok
  have hend : AppendEnd i s (.pending r) own s' (.ok e) := Exec.appendOp_cases hs hexec
  cases hend with
  | appended s₁ s₂ hr hstep hr' _ =>
    have hs₂ := hs.reaches (hr.step hstep).foreignReaches
    exact ⟨rfl, hr'.retainsEvent hs₂ hstep.retainsEvent⟩
  | resubmitted r' hop hret _ =>
    obtain rfl := AppendOp.pending.inj hop
    exact ⟨rfl, hret.event⟩

/-- What a complete retry confirms. -/
theorem ends_confirmRetained (hB : ∀ a b, B a b → Reaches a b) (hs : CacheSound s)
    {retained : EventV1}
    (h : Ends (facadeCalls B i) s (F.confirmRetained e d retained) (.ok e') s') :
    e' = retained ∧ retained = e ∧ s'.tables.IsFinalized e.eventDigest := by
  unfold Facade.confirmRetained at h
  split_ifs at h with hsame
  · simp at h
  push Not at hsame
  obtain ⟨o, s₁, h₁, h⟩ := ends_bind_ok.mp h
  obtain ⟨hr, hl⟩ := ends_read (q := fun t => loadIntegrityLineage E t _) hB (fun _ _ => rfl) h₁
  cases o with
  | none => simp at h
  | some l =>
    dsimp only at h
    split_ifs at h with hopen
    · simp at h
    push Not at hopen
    have hfin : s₁.tables.IsFinalized e.eventDigest := by
      obtain ⟨r, hlf⟩ := loadIntegrityLineage_some hl
      exact hlf.finalization_ne_none.mp hopen.2
    have hrun : Reaches s₁ s' := ends_reaches hB h
    have hfin' := hrun.isFinalized (hs.reaches hr.foreignReaches) hfin
    cases hc : l.checkpointCandidate with
    | none => simp [hc] at h
    | some c =>
      rw [hc] at h
      obtain ⟨previous, s₂, -, h⟩ := ends_bind_ok.mp h
      obtain ⟨-, -, h⟩ := ends_checked_bind.mp h
      obtain ⟨-, -, h⟩ := ends_checked_bind.mp h
      obtain ⟨x, -, h⟩ := ends_checked_bind.mp h
      obtain ⟨he, -⟩ := ends_pure.mp h
      exact ⟨Except.ok.inj he, hsame.1, hfin'⟩

/-- An append that returns has retained the event and its finalization. -/
theorem ends_appendAndFinalize (hB : ∀ a b, B a b → Reaches a b) (hs : CacheSound s)
    {staging : Option E.Staging}
    (h : Ends (facadeCalls B i) s (F.appendAndFinalize e d staging) (.ok e') s') :
    e' = e ∧ s'.tables.RetainsEvent e ∧ s'.tables.IsFinalized e.eventDigest := by
  unfold Facade.appendAndFinalize at h
  obtain ⟨x, s₁, h₁, h⟩ := ends_bind_ok.mp h
  obtain ⟨o, s₂, h₂, h⟩ := ends_bind_ok.mp h
  have hs₁ := hs.reaches (ends_reaches hB h₁).foreignReaches
  obtain ⟨hr₂, ho⟩ := ends_read (q := fun t => loadIntegrityEvent E t _) hB (fun _ _ => rfl) h₂
  have hs₂ := hs₁.reaches hr₂.foreignReaches
  cases o with
  | some retained =>
    obtain ⟨rfl, rfl, hfin⟩ := ends_confirmRetained hB hs₂ h
    have hret := retainsEvent_of_load (loadIntegrityEvent_some ho)
    exact ⟨rfl, (ends_reaches hB h).retainsEvent hs₂ hret, hfin⟩
  | none =>
    obtain ⟨previous, s₃, h₃, h⟩ := ends_bind_ok.mp h
    obtain ⟨⟨p, bundles⟩, s₄, h₄, h⟩ := ends_bind_ok.mp h
    obtain ⟨retained, s₅, h₅, h⟩ := ends_bind_ok.mp h
    obtain ⟨o, s₆, h₆, h⟩ := ends_bind_ok.mp h
    have hs₄ := hs₂.reaches ((ends_reaches hB h₃).trans (ends_reaches hB h₄)).foreignReaches
    have hs₅ := hs₄.reaches (ends_reaches hB h₅).foreignReaches
    obtain ⟨hsame, hret⟩ := ends_appendPending hB hs₄ h₅
    obtain rfl : e = retained := hsame.symm
    obtain ⟨hr₆, hl⟩ := ends_read (q := fun t => loadIntegrityLineage E t _) hB (fun _ _ => rfl) h₆
    have hs₆ := hs₅.reaches hr₆.foreignReaches
    cases o with
    | none => simp at h
    | some l =>
      obtain ⟨completed, s₇, h₇, h⟩ := ends_bind_ok.mp h
      obtain ⟨f, s₈, h₈, h⟩ := ends_bind_ok.mp h
      obtain ⟨he, rfl⟩ := ends_pure.mp h
      obtain ⟨row, hlf⟩ := loadIntegrityLineage_some hl
      have hd : l.pending.eventDigest = e.eventDigest := by
        rw [hlf.pending, hlf.agrees.1]
        exact key_of_findBy hlf.row
      have hopen : l.finalization = none ∨ s₆.tables.IsFinalized l.pending.eventDigest := by
        rw [hd, ← hlf.finalization_ne_none]
        exact Classical.em _
      obtain ⟨-, hfin⟩ := ends_advanceFinality hB hs₆ hopen h₇
      rw [hd] at hfin
      have hs₇ := hs₆.reaches (ends_reaches hB h₇).foreignReaches
      refine ⟨Except.ok.inj he, ?_, (ends_reaches hB h₈).isFinalized hs₇ hfin⟩
      exact ((hr₆.trans (ends_reaches hB h₇)).trans (ends_reaches hB h₈)).retainsEvent hs₅ hret

/-- A load shows retained events only when none is unresolved. -/
theorem ends_load (hB : ∀ a b, B a b → Reaches a b) (hs : s.Reachable) {m : Digest}
    {es : List EventV1} (h : Ends (facadeCalls B i) s (F.load m) (.ok es) s') :
    unresolvedIntegrityDigest s'.tables = .ok none ∧ ∀ e ∈ es, s'.tables.RetainsEvent e := by
  have hs' : s'.Reachable := hs.reaches (ends_reaches hB h)
  unfold Facade.load at h
  obtain ⟨⟨⟩, s₁, -, h⟩ := ends_bind_ok.mp h
  obtain ⟨x, s₂, -, h⟩ := ends_bind_ok.mp h
  obtain ⟨-, hl⟩ := ends_read (q := fun t => load E t m) hB (fun _ _ => rfl) h
  unfold load at hl
  obtain ⟨u, hu, hl⟩ := bind_eq_ok.mp hl
  obtain ⟨hopen, hl⟩ := unit_bind_eq_ok.mp hl
  rw [refuseIf_eq_ok, not_not] at hopen
  refine ⟨hopen ▸ hu, fun e he => ?_⟩
  unfold verifiedStream at hl
  obtain ⟨events, hevents, hl⟩ := bind_eq_ok.mp hl
  obtain ⟨-, hl⟩ := unit_bind_eq_ok.mp hl
  obtain ⟨-, hl⟩ := unit_bind_eq_ok.mp hl
  obtain rfl := Except.ok.inj hl
  rw [decodeStream_eq hevents] at he
  exact hs'.streamsDecode.retainsEvent he

end Success

end Etzio
