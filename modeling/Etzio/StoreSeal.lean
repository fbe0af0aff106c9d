import Etzio.StoreStreams

/-!
# A sealed instance

A recovery decision with the disposition `instance_sealed` ends the store's history. No
single check does this : an append meets the unresolved transition, a phase write the
rule for blocked transitions, observations and decisions their triggers, and an
enrollment finds its profile or the events. They all apply because the replay holds
every seal to the one unresolved transition (`Written.not_sealed`). From then on the
tables never change, a write returns what is retained already or raises, and `load`
refuses (`sealed_instance_is_final`).
-/

open CheckedRun Rows

namespace Etzio

variable {E : Env}

/-! ## Sealed tables -/

section Sealed

variable {t t' : E.Db}

/-- A sealed store is enrolled, with a recovery profile and an unresolved transition. -/
theorem Accepted.of_sealed (hacc : Accepted t) (hk : t.Keys) (hseal : t.Sealed) :
    ∃ p d, t.profile = .modeled p ∧ ModeledAccepted t p ∧ t.recoveryProfile ≠ none ∧
      unresolvedIntegrityDigest t = .ok (some d) := by
  obtain ⟨r, hr, hrs⟩ := hseal
  cases hp : t.profile with
  | legacy =>
    have hnil := ((accepted_legacy hp).mp hacc).decisions
    simp [hnil] at hr
  | modeled p =>
    have hm := (accepted_modeled hk hp).mp hacc
    obtain ⟨d, hd⟩ := validateBlocked_sealed hm.blocked ⟨r, hr, hrs⟩
    refine ⟨p, d, rfl, hm, fun hnone => ?_, hd⟩
    rcases validateBlockedFinalityState_eq_ok.mp hm.blocked with ⟨-, -, hnil⟩ | ⟨hne, -⟩
    · simp [hnil] at hr
    · exact hne hnone

/-- Nothing is written to a sealed store. -/
theorem Written.not_sealed (h : Written t t') (hk : t.Keys) (hacc : Accepted t) : ¬t.Sealed := by
  intro hseal
  obtain ⟨p, d, hp, hm, hrec, hu⟩ := hacc.of_sealed hk hseal
  cases h with
  | appended r v _ hleg => simp [hleg] at hp
  | appendedPending r x q _ _ h =>
    rw [unresolvedIntegrityDigest_none h.allFinalized] at hu
    simp at hu
  | phase d phase l l' hl h =>
    have hgov := h.governed
    unfold requireGovernedPhaseWrite at hgov
    obtain ⟨hopen, -⟩ := unit_bind_eq_ok.mp hgov
    rw [refuseIf_eq_ok] at hopen
    exact hopen hseal
  | observed o h => exact h.notSealed hseal
  | decided d h => exact h.notSealed hseal
  | recoveryEnrolled x h => exact hrec h.first
  | modeledEnrolled q h => simp [h.legacy] at hp
  | qualifiedEnrolled q h =>
    -- Without an event nothing could be unresolved.
    rw [unresolvedIntegrityDigest_none (by simp [(hm.empty h.empty).1])] at hu
    simp at hu
  | checkpointed c h => simp [h.legacy] at hp

end Sealed

/-! ## Resubmissions -/

/-- What a transaction that wrote nothing returned was retained already. -/
def Txn.AlreadyRetained (t : E.Db) : {ρ : Type} → Txn E ρ → ρ → Prop
  | _, .appendVerifiedEvent _, _ => False
  | _, .retainIntegrityAnchorStatement a _, y => y = a ∧ ∃ r ∈ t.anchors, r.record = a
  | _, .retainIntegrityCheckpointCandidate c _, y => y = c ∧ ∃ r ∈ t.candidates, r.record = c
  | _, .finalizeIntegrityTransition f _, y => y = f ∧ ∃ r ∈ t.finalizations, r.record = f
  | _, .retainBlockedFinalityObservation o, y => y = o ∧ ∃ r ∈ t.observations, r.record = o
  | _, .retainGovernedRecoveryDecision d, y =>
    y = d.decision.decisionId ∧ ∃ r ∈ t.decisions, r.record = d
  | _, _, _ => True

theorem Txn.body_unchanged {ρ : Type} {x : Txn E ρ} {cap : ℕ} {t : E.Db} {y : ρ}
    (h : x.body E cap t = .ok (.unchanged, y)) : x.AlreadyRetained t y := by
  cases x with
  | appendVerifiedEvent r =>
    obtain ⟨u, hu, -⟩ := appendVerifiedEvent_spec h
    simp at hu
  | retainIntegrityAnchorStatement a b =>
    cases retainIntegrityAnchorStatement_spec h with
    | unchanged hkept =>
      obtain ⟨r, hr, -, hrec⟩ := hkept
      exact ⟨rfl, r, hr, hrec⟩
  | retainIntegrityCheckpointCandidate c b =>
    cases retainIntegrityCheckpointCandidate_spec h with
    | unchanged hkept =>
      obtain ⟨r, hr, -, hrec⟩ := hkept
      exact ⟨rfl, r, hr, hrec⟩
  | finalizeIntegrityTransition f b =>
    cases finalizeIntegrityTransition_spec h with
    | unchanged hkept =>
      obtain ⟨r, hr, -, hrec⟩ := hkept
      exact ⟨rfl, r, hr, hrec⟩
  | retainBlockedFinalityObservation o =>
    cases retainBlockedFinalityObservation_spec h with
    | unchanged hkept => exact ⟨rfl, hkept⟩
  | retainGovernedRecoveryDecision d =>
    cases retainGovernedRecoveryDecision_spec h with
    | unchanged hkept => exact ⟨rfl, hkept⟩
  | _ => trivial

/-! ## Runs after a seal -/

section Runs

variable {s s' : Sys E} {ρ : Type} {i : ℕ} {x : Txn E ρ} {y : Except StoreError ρ}

/-- A step of a sealed store changes nothing, and returns nothing that was not retained. -/
theorem Step.of_sealed (h : CacheSound s) (hseal : s.tables.Sealed) (hs : Step s i x y s') :
    s'.tables = s.tables ∧
      ((∃ e, y = .error e) ∨ ∃ v, y = .ok v ∧ x.AlreadyRetained s.tables v) := by
  cases hs with
  | invalid => exact ⟨rfl, .inl ⟨_, rfl⟩⟩
  | refused => exact ⟨rfl, .inl ⟨_, rfl⟩⟩
  | interrupted => exact ⟨rfl, .inl ⟨_, rfl⟩⟩
  | unchanged _ hx =>
    exact ⟨rfl, .inr ⟨_, rfl, Txn.body_unchanged (transact_eq_ok.mp hx).2⟩⟩
  | wrote _ hx _ =>
    have hw := Txn.body_written (transact_eq_ok.mp hx).2
    exact absurd hseal (hw.not_sealed h.keys (h.accepted_of_transact hx))

theorem Reaches.tables_of_sealed (h : CacheSound s) (hseal : s.tables.Sealed)
    (hr : Reaches s s') : s'.tables = s.tables := by
  refine hr.invariant (P := fun t => t = s.tables) ?_ h rfl
  intro σ z cap t t' published reply hk hacc ht hx
  exact absurd (ht ▸ hseal) ((Txn.body_written hx).not_sealed hk hacc)

/-- The generic read refuses while a transition is unresolved. -/
theorem load_of_unresolved {t : E.Db} {d m : Digest}
    (h : unresolvedIntegrityDigest t = .ok (some d)) : load E t m = .error ⟨.pendingTransition,
      "generic mission replay is unavailable while an integrity transition is pending"⟩ := by
  unfold load
  rw [h]
  rfl

end Runs

/-- What every connection meets in a store that was sealed with the tables `t`. -/
structure SealHolds (t : E.Db) (s : Sys E) : Prop where
  tables : s.tables = t
  /-- Every transaction leaves the tables alone, and returns an error or what was
  retained already. -/
  transaction : ∀ {ρ : Type} {i : ℕ} {x : Txn E ρ} {y : Except StoreError ρ} {s' : Sys E},
    Step s i x y s' → s'.tables = t ∧
      ((∃ e, y = .error e) ∨ ∃ v, y = .ok v ∧ x.AlreadyRetained t v)
  /-- So does every append operation. -/
  append : ∀ {i : ℕ} {op : AppendOp E} {y : Except StoreError EventV1}
    {own : List (E.Db × E.Db)} {s' : Sys E}, Exec i s op.program y own s' → s'.tables = t ∧
      ((∃ e, y = .error e) ∨ ∃ r, op = .pending r ∧ y = .ok r.event ∧ r.Retained t)
  load : ∀ i m, transact E s.tables (s.conns i) (.load m) = .error ⟨.pendingTransition,
    "generic mission replay is unavailable while an integrity transition is pending"⟩
  loadRaises : ∀ {i : ℕ} {m : Digest} {y : Except StoreError (List EventV1)} {s' : Sys E},
    Step s i (.load m) y s' → ∃ e, y = .error e

/-- Once an instance is sealed its tables never change again. -/
theorem sealed_instance_is_final {s s' : Sys E} (h : s.Reachable) (hseal : s.tables.Sealed)
    (hr : Reaches s s') : SealHolds s.tables s' := by
  have htables := hr.tables_of_sealed h.cacheSound hseal
  have hreach := h.reaches hr
  have hsound := hreach.cacheSound
  have hseal' : s'.tables.Sealed := htables ▸ hseal
  have hload : ∀ i m, transact E s'.tables (s'.conns i) (.load m) = .error ⟨.pendingTransition,
      "generic mission replay is unavailable while an integrity transition is pending"⟩ := by
    intro i m
    rcases hreach.accepted with hfresh | hacc
    · obtain ⟨d, hd, -⟩ := hseal'
      simp [hfresh, Env.freshDb] at hd
    · obtain ⟨p, d, -, -, -, hu⟩ := hacc.of_sealed hsound.keys hseal'
      rw [transact, hsound.authenticate_eq, hacc]
      change readOnly E (Etzio.load E s'.tables m) = _
      rw [load_of_unresolved hu]
      rfl
  refine ⟨htables, fun hs => ?_, fun hx => ?_, hload, fun hs => ?_⟩
  · rw [← htables]
    exact hs.of_sealed hsound hseal'
  · have htables' := hx.reaches.tables_of_sealed hsound hseal'
    refine ⟨htables'.trans htables, ?_⟩
    cases hx.appendOp_cases hsound with
    | raised e => exact .inl ⟨e, rfl⟩
    | appended s₁ s₂ hr₁ hs =>
      -- The append transaction itself never returns.
      have hsound₁ := hsound.reaches hr₁.foreignReaches
      have hseal₁ : s₁.tables.Sealed := hr₁.tables_of_sealed hsound hseal' ▸ hseal'
      rcases (hs.of_sealed hsound₁ hseal₁).2 with ⟨e, he⟩ | ⟨v, -, hfalse⟩
      · cases he
      · exact hfalse.elim
    | resubmitted r hop hret =>
      subst hop
      exact .inr ⟨r, rfl, rfl, htables ▸ htables' ▸ hret⟩
  · cases hs with
    | invalid => exact ⟨_, rfl⟩
    | refused => exact ⟨_, rfl⟩
    | interrupted => exact ⟨_, rfl⟩
    | unchanged _ hx => rw [hload] at hx; cases hx
    | wrote _ hx => rw [hload] at hx; cases hx

/-- A later event and the anchor of the sealed one are refused, by either connection. -/
theorem sealed_instance_is_final_sample :
    let later := sampleEvent 2 12 (.missionOpened sampleSnapshot)
    let s := (sampleSealed.perform 0 (.appendVerifiedEvent (sampleRequest 2 later).append)).2
    sampleSealed.tables.Sealed ∧
      (sampleSealed.perform 0 (.appendVerifiedEvent (sampleRequest 2 later).append)).1 =
        .error ⟨.pendingTransition, "an instance-global integrity transition is pending"⟩ ∧
      (s.perform 1 (.retainIntegrityAnchorStatement (sampleAnchor 1 sampleSecond) ())).1 =
        .error ⟨.transitionConflict, "a sealed instance cannot advance an integrity phase"⟩ ∧
      SealHolds sampleSealed.tables
        (s.perform 1 (.retainIntegrityAnchorStatement (sampleAnchor 1 sampleSecond) ())).2 := by
  intro later s
  refine ⟨by decide +kernel, by decide +kernel, by decide +kernel, ?_⟩
  exact sealed_instance_is_final sampleSealed_reachable (by decide +kernel)
    ((Reaches.refl.perform 0 _).perform 1 _)

end Etzio
