import Etzio.StoreStreams

/-!
# Repeated phase submissions

Each phase of a transition is retained once. A record submitted again for an event whose
phase is retained changes nothing, at whatever later point of the store's life, and it is
accepted only when it is the retained one (`phase_resubmission`). The anchor, candidate
and finalization writes look for the retained record first, and a pending append finds
it in its handler of the stale head.
-/

open CheckedRun Rows

namespace Etzio

variable {E : Env}

/-! ## The later phases -/

section Phases

variable {s s' : Sys E} {ρ : Type} {i : ℕ}

/-- A step whose record cannot be written again leaves the tables alone, and returns the
record only if it is retained. -/
theorem Step.again {x : Txn E ρ} {y : Except StoreError ρ} {a : ρ} {kept : Prop}
    {written : E.Db → Prop} (hs : Step s i x y s')
    (hspec : ∀ c, x.body E (s.conns i).maxVaultBytes s.tables = .ok c → Outcome a kept written c)
    (hwritten : ∀ t, ¬written t) :
    s'.tables = s.tables ∧ ∀ v, y = .ok v → v = a ∧ kept := by
  cases hs with
  | invalid => exact ⟨rfl, by simp⟩
  | refused => exact ⟨rfl, by simp⟩
  | interrupted => exact ⟨rfl, by simp⟩
  | unchanged _ h =>
    refine ⟨rfl, fun v hv => ?_⟩
    obtain rfl := Except.ok.inj hv
    cases hspec _ (transact_eq_ok.mp h).2 with
    | unchanged hkept => exact ⟨rfl, hkept⟩
  | wrote _ h _ =>
    cases hspec _ (transact_eq_ok.mp h).2 with
    | wrote hw => exact absurd hw (hwritten _)

/-- An anchor statement of an event that has one. -/
theorem Step.anchor_again (h : CacheSound s) {a : AnchorStatementRecordV1} {b : E.Bundles}
    {y : Except StoreError AnchorStatementRecordV1}
    (hs : Step s i (.retainIntegrityAnchorStatement a b) y s') {row : AnchorRow}
    (hrow : row ∈ s.tables.anchors) (hd : row.eventDigest = a.eventDigest) :
    s'.tables = s.tables ∧ ∀ v, y = .ok v → v = a ∧ row.record = a := by
  obtain ⟨htables, hret⟩ := hs.again (fun _ hc => retainIntegrityAnchorStatement_spec hc)
    fun _ hw => hw.1 row hrow hd
  refine ⟨htables, fun v hv => ?_⟩
  obtain ⟨hva, r, hr, hrd, hrec⟩ := hret v hv
  obtain rfl : row = r :=
    List.inj_on_of_nodup_map h.keys.anchorDigest hrow hr (hd.trans hrd.symm)
  exact ⟨hva, hrec⟩

/-- A checkpoint candidate of an event that has one. -/
theorem Step.candidate_again (h : CacheSound s) {c : CheckpointCandidateRecordV1} {b : E.Bundles}
    {y : Except StoreError CheckpointCandidateRecordV1}
    (hs : Step s i (.retainIntegrityCheckpointCandidate c b) y s') {row : CandidateRow}
    (hrow : row ∈ s.tables.candidates) (hd : row.eventDigest = c.eventDigest) :
    s'.tables = s.tables ∧ ∀ v, y = .ok v → v = c ∧ row.record = c := by
  obtain ⟨htables, hret⟩ := hs.again (fun _ hc => retainIntegrityCheckpointCandidate_spec hc)
    fun _ hw => hw.1 row hrow hd
  refine ⟨htables, fun v hv => ?_⟩
  obtain ⟨hva, r, hr, hrd, hrec⟩ := hret v hv
  obtain rfl : row = r :=
    List.inj_on_of_nodup_map h.keys.candidateDigest hrow hr (hd.trans hrd.symm)
  exact ⟨hva, hrec⟩

/-- A finalization of an event that has one. -/
theorem Step.finalization_again (h : CacheSound s) {f : FinalizedIntegrityTransitionV1}
    {b : E.Bundles} {y : Except StoreError FinalizedIntegrityTransitionV1}
    (hs : Step s i (.finalizeIntegrityTransition f b) y s') {row : FinalizationRow}
    (hrow : row ∈ s.tables.finalizations) (hd : row.eventDigest = f.eventDigest) :
    s'.tables = s.tables ∧ ∀ v, y = .ok v → v = f ∧ row.record = f := by
  obtain ⟨htables, hret⟩ := hs.again (fun _ hc => finalizeIntegrityTransition_spec hc)
    fun _ hw => hw.1 row hrow hd
  refine ⟨htables, fun v hv => ?_⟩
  obtain ⟨hva, r, hr, hrd, hrec⟩ := hret v hv
  obtain rfl : row = r :=
    List.inj_on_of_nodup_map h.keys.finalizationDigest hrow hr (hd.trans hrd.symm)
  exact ⟨hva, hrec⟩

end Phases

/-! ## The pending phase -/

section Pending

variable {s s' : Sys E} {i : ℕ} {r : PendingRequest E} {y : Except StoreError EventV1}
  {own : List (E.Db × E.Db)} {row : PendingRow}

/-- The columns of a reachable pending row are those of its record. -/
theorem Sys.Reachable.pending_agrees (h : s.Reachable) (hrow : row ∈ s.tables.pending) :
    row.Agrees E.integrity := by
  rcases h.accepted with hfresh | hacc
  · rw [hfresh] at hrow
    exact absurd hrow List.not_mem_nil
  · obtain ⟨p, hp⟩ := hacc.modeled_of_pending hrow
    have hm := h.modeledAccepted hp
    obtain ⟨pre, post, horder⟩ := List.append_of_mem (mem_instanceOrder.mpr hrow)
    obtain ⟨u, hu⟩ := hm.replayed
    obtain ⟨_, _, -, -, hstep⟩ := replay_at h.cacheSound.keys hm.structured hu horder
    obtain ⟨l, _, hl, -⟩ := replayStep_eq_ok.mp hstep
    obtain ⟨row', hlf⟩ := loadIntegrityLineage_some hl
    rw [← LoadedFrom.row_eq h.cacheSound.keys hrow hlf]
    exact hlf.agrees

/-- An append of a pending request adds a transition that was not retained. -/
theorem Step.pending_fresh {e : EventV1}
    (hs : Step s i (.appendVerifiedEvent r.append) (.ok e) s') (hrow : row ∈ s.tables.pending) :
    row.eventDigest ≠ r.event.eventDigest ∧ r.pending.eventDigest = r.event.eventDigest := by
  cases hs with
  | unchanged _ hx =>
    obtain ⟨u, hu, -⟩ := appendVerifiedEvent_spec (transact_eq_ok.mp hx).2
    simp at hu
  | wrote _ hx _ =>
    obtain ⟨u, -, -, hrows, hcheck, hfk⟩ := appendVerifiedEvent_spec (transact_eq_ok.mp hx).2
    have hw := appendRows_modeled (x := r.pending) (b := r.bundles) rfl hrows hcheck hfk
    exact ⟨hw.fresh row hrow, hw.eventDigest⟩

/-- A pending request for a transition that is retained. -/
theorem Exec.pending_again (h : s.Reachable)
    (hx : Exec i s (appendPendingIntegrityEvent r) y own s') (hrow : row ∈ s.tables.pending)
    (hd : row.eventDigest = r.event.eventDigest ∨ row.eventDigest = r.pending.eventDigest) :
    Quiet own ∧ ∀ e, y = .ok e → e = r.event ∧ row.record = r.pending ∧
      ∃ x ∈ s.tables.events, x.digest = row.eventDigest ∧ x.canonical = r.event := by
  have hprogram : Exec i s (AppendOp.pending r).program y own s' := hx
  have hend := hprogram.appendOp_cases h.cacheSound
  cases hend with
  | raised e hq => exact ⟨hq, by simp⟩
  | appended s₁ s₂ hr hs hr' hown =>
    have hrow₁ := (hr.rows_subset h.cacheSound).2 hrow
    obtain ⟨hne, heq⟩ := hs.pending_fresh hrow₁
    exact absurd (hd.elim id fun hp => hp.trans heq) hne
  | resubmitted r' hop hret hq =>
    obtain rfl : r = r' := AppendOp.pending.inj hop
    refine ⟨hq, fun e he => ⟨(Except.ok.inj he).symm, ?_⟩⟩
    have hreach := h.reaches hx.reaches
    have hsub := hx.reaches.rows_subset h.cacheSound
    -- The row of the request's dossier is the row that was there already.
    obtain ⟨row', hrow', hd', hrec⟩ := hret.dossier
    have heq : row.eventDigest = row'.eventDigest := by
      have hagrees := (hreach.pending_agrees hrow').1
      rw [hrec] at hagrees
      rcases hd with hd | hd
      · rw [hd, hd']
      · rw [hd, hagrees]
    obtain rfl : row = row' :=
      List.inj_on_of_nodup_map hreach.cacheSound.keys.pendingDigest (hsub.2 hrow) hrow' heq
    refine ⟨hrec, ?_⟩
    rcases h.accepted with hfresh | hacc
    · rw [hfresh] at hrow
      exact absurd hrow List.not_mem_nil
    · obtain ⟨x, hxmem, hxd⟩ := hacc.foreignKeys.pending row hrow
      obtain ⟨x', hx', hxd', hcanon⟩ := hret.event
      obtain rfl : x = x' := List.inj_on_of_nodup_map hreach.cacheSound.keys.eventDigest
        (hsub.1 hxmem) hx' (by rw [hxd, hxd', hd'])
      exact ⟨x, hxmem, hxd, hcanon⟩

end Pending

/-! ## All phases -/

/-- What a phase operation does for an event whose phase is retained : it leaves the
tables alone, and it returns only for the retained record. -/
structure RetainedOnce (s : Sys E) : Prop where
  pending : ∀ {i : ℕ} {r : PendingRequest E} {y : Except StoreError EventV1}
    {own : List (E.Db × E.Db)} {s' : Sys E}, Exec i s (appendPendingIntegrityEvent r) y own s' →
    ∀ row ∈ s.tables.pending,
      row.eventDigest = r.event.eventDigest ∨ row.eventDigest = r.pending.eventDigest →
      Quiet own ∧ ∀ e, y = .ok e → e = r.event ∧ row.record = r.pending ∧
        ∃ x ∈ s.tables.events, x.digest = row.eventDigest ∧ x.canonical = r.event
  anchor : ∀ {i : ℕ} {a : AnchorStatementRecordV1} {b : E.Bundles}
    {y : Except StoreError AnchorStatementRecordV1} {s' : Sys E},
    Step s i (.retainIntegrityAnchorStatement a b) y s' →
    ∀ row ∈ s.tables.anchors, row.eventDigest = a.eventDigest →
      s'.tables = s.tables ∧ ∀ v, y = .ok v → v = a ∧ row.record = a
  candidate : ∀ {i : ℕ} {c : CheckpointCandidateRecordV1} {b : E.Bundles}
    {y : Except StoreError CheckpointCandidateRecordV1} {s' : Sys E},
    Step s i (.retainIntegrityCheckpointCandidate c b) y s' →
    ∀ row ∈ s.tables.candidates, row.eventDigest = c.eventDigest →
      s'.tables = s.tables ∧ ∀ v, y = .ok v → v = c ∧ row.record = c
  finalization : ∀ {i : ℕ} {f : FinalizedIntegrityTransitionV1} {b : E.Bundles}
    {y : Except StoreError FinalizedIntegrityTransitionV1} {s' : Sys E},
    Step s i (.finalizeIntegrityTransition f b) y s' →
    ∀ row ∈ s.tables.finalizations, row.eventDigest = f.eventDigest →
      s'.tables = s.tables ∧ ∀ v, y = .ok v → v = f ∧ row.record = f

/-- In every reachable state a phase that is retained is not written again, and a record
submitted for it is accepted only if it is the retained one. -/
theorem phase_resubmission {s : Sys E} (h : s.Reachable) : RetainedOnce s where
  pending hx _ hrow hd := hx.pending_again h hrow hd
  anchor hs _ hrow hd := hs.anchor_again h.cacheSound hrow hd
  candidate hs _ hrow hd := hs.candidate_again h.cacheSound hrow hd
  finalization hs _ hrow hd := hs.finalization_again h.cacheSound hrow hd

/-- The anchor statement of a finalized transition, submitted again on another connection. -/
theorem phase_resubmission_sample :
    ∃ row ∈ sampleFinalized.tables.anchors, row.eventDigest = sampleFirst.eventDigest ∧
      (sampleFinalized.perform 1
        (.retainIntegrityAnchorStatement (sampleAnchor 0 sampleFirst) ())).2.tables =
          sampleFinalized.tables := by
  have hrow : ∃ row ∈ sampleFinalized.tables.anchors,
      row.eventDigest = sampleFirst.eventDigest := by decide +kernel
  obtain ⟨row, hmem, hd⟩ := hrow
  have hs := sampleFinalized.perform_step 1
    (.retainIntegrityAnchorStatement (sampleAnchor 0 sampleFirst) ())
  exact ⟨row, hmem, hd, ((phase_resubmission sampleFinalized_reachable).anchor hs row hmem hd).1⟩

end Etzio
