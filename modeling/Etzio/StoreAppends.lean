import Etzio.StorePhases

/-!
# Appends keep the store acceptable

An appended event arrives with its pending record in a modeled store and without one in
a legacy store. `AppendWritten` is what the modeled append establishes ; its row is the
last one of the replay, and the predecessors the append used are the running ones the
replay has there (`AppendWritten.accepted`).
-/

open CheckedRun Rows

namespace Etzio

variable {E : Env}

/-! ## Seals -/

section Seals

variable {t : E.Db} {profile : BlockedFinalityRecoveryProfileV1}

/-- A seal that passed its check fences the unresolved transition. -/
theorem checkDecisionRow_sealed {r : DecisionRow} (h : checkDecisionRow E t profile r = .ok ())
    (hr : r.disposition = .instanceSealed) :
    unresolvedIntegrityDigest t = .ok (some r.eventDigest) := by
  unfold checkDecisionRow at h
  obtain ⟨o, -, h⟩ := orRefuse_bind_eq_ok.mp h
  obtain ⟨x, -, h⟩ := bind_eq_ok.mp h
  obtain ⟨-, h⟩ := unit_bind_eq_ok.mp h
  rw [if_pos hr] at h
  obtain ⟨y, -, h⟩ := bind_eq_ok.mp h
  obtain ⟨l, -, h⟩ := orRefuse_bind_eq_ok.mp h
  obtain ⟨u, hu, h⟩ := bind_eq_ok.mp h
  rw [refuseIf_eq_ok] at h
  push Not at h
  rw [hu, h.2.2]

/-- In an accepted store a seal fences one unresolved transition. -/
theorem validateBlocked_sealed (hb : validateBlockedFinalityState E t = .ok ()) (hs : t.Sealed) :
    ∃ d, unresolvedIntegrityDigest t = .ok (some d) := by
  obtain ⟨r, hr, hrs⟩ := hs
  rcases validateBlockedFinalityState_eq_ok.mp hb with ⟨-, -, hd⟩ | ⟨-, profile, h⟩
  · rw [hd] at hr
    simp at hr
  · exact ⟨r.eventDigest, checkDecisionRow_sealed (h.decisions r hr) hrs⟩

theorem unresolvedIntegrityDigest_none (h : ∀ p ∈ t.pending, t.IsFinalized p.eventDigest) :
    unresolvedIntegrityDigest t = .ok none := by
  have hu : t.unresolved = [] := by
    rw [Tables.unresolved, List.filter_eq_nil_iff]
    intro p hp
    simpa using h p (mem_orderBy.mp hp)
  rw [unresolvedIntegrityDigest, hu]

end Seals

/-! ## Appends -/

section Appends

variable {cap : ℕ} {t t' : E.Db} {e : EventV1} {x : PendingIntegrityTransitionV1}
  {p : ModeledProfile} {b : E.Bundles} {r : AppendRequest E}

/-- The row of a pending dossier. -/
def PendingRow.ofRecord (I : IntegrityPrimitives) (x : PendingIntegrityTransitionV1) :
    PendingRow :=
  ⟨x.eventDigest, x.missionId, x.eventSeq, x.instanceSequence, I.pendingRecordId x, x⟩

/-- What an append with a dossier did : every transition was finalized, the new one is
the next, and its dossier is authenticated against the latest finalized ones. -/
structure AppendWritten (e : EventV1) (x : PendingIntegrityTransitionV1) (t t' : E.Db) : Prop where
  grows : Grows e.eventDigest t t'
  events : t'.events = t.events ++ [.ofEvent e]
  pending : t'.pending = t.pending ++ [.ofRecord E.integrity x]
  finalizations : t'.finalizations = t.finalizations
  eventDigest : x.eventDigest = e.eventDigest
  missionId : x.missionId = e.missionId
  eventSeq : x.eventSeq = e.seq
  next : x.instanceSequence = t.finalizations.length
  allFinalized : ∀ q ∈ t.pending, t.IsFinalized q.eventDigest
  fresh : ∀ q ∈ t.pending, q.eventDigest ≠ e.eventDigest
  evidence : EvidenceAdded e.eventDigest .pending t t'
  keys : t.Keys → t'.Keys
  foreignKeys : t'.ForeignKeys E.vaultForeignKeys
  loaded : loadIntegrityLineage E t' e.eventDigest = .ok (some ⟨x, none, none, none⟩)
  retained : eventForIntegrityDigest E t' e.eventDigest = .ok e
  authenticated : ∀ p g m, t.profile = .modeled p →
    previousIntegrityLineages E t e.missionId = .ok (g, m) →
    Authenticated t p e ⟨x, none, none, none⟩ g m

/-- The appended row is the last one of the instance order. -/
theorem AppendWritten.instanceOrder_eq (h : AppendWritten e x t t') (hk : t.Keys)
    (hs : Structured t) :
    t'.instanceOrder = t.instanceOrder ++ [.ofRecord E.integrity x] := by
  rw [Tables.instanceOrder, h.pending, Tables.instanceOrder]
  refine orderBy_snoc fun q hq => ?_
  have := (hs.isFinalized_iff hk hq).mp (h.allFinalized q hq)
  change q.instanceSequence ≤ x.instanceSequence
  rw [h.next]
  omega

theorem AppendWritten.structured (h : AppendWritten e x t t') (hk : t.Keys) (hs : Structured t) :
    Structured t' := by
  have hlt : ∀ q ∈ t.pending, q.instanceSequence < x.instanceSequence := fun q hq => by
    rw [h.next]
    exact (hs.isFinalized_iff hk hq).mp (h.allFinalized q hq)
  have hlen : t.pending.length = t.finalizations.length := by
    rcases hs.order_cases hk with ⟨-, hlen, -⟩ | ⟨init, y, horder, -, -, -, hy⟩
    · exact hlen
    · exact absurd (h.allFinalized y (mem_instanceOrder.mp (by simp [horder]))) hy
  refine .of_core (h.keys hk) h.foreignKeys ?_ ?_ ?_ ?_ ?_ (h.evidence.noOrphan h.grows hs)
    (h.evidence.hasPhase h.grows hs
      ⟨.ofRecord E.integrity x, by rw [h.pending]; simp, h.eventDigest⟩)
  · rw [h.events, h.pending, List.length_append, List.length_append, hs.count]
    rfl
  · intro y hy
    rw [h.events] at hy
    rw [h.pending]
    rcases List.mem_append.mp hy with hy | hy
    · obtain ⟨q, hq, hqy⟩ := hs.event y hy
      exact ⟨q, List.mem_append_left _ hq, hqy⟩
    · obtain rfl := List.mem_singleton.mp hy
      exact ⟨_, List.mem_append_right _ (List.mem_singleton_self _), h.eventDigest, h.missionId,
        h.eventSeq⟩
  · intro q hq
    rw [h.pending] at hq ⊢
    rw [List.filter_append]
    rcases List.mem_append.mp hq with hq | hq
    · have hnot : ¬x.instanceSequence < q.instanceSequence := by
        have := hlt q hq
        omega
      have hnil : [PendingRow.ofRecord E.integrity x].filter
          (fun y => y.instanceSequence < q.instanceSequence) = [] := by
        simpa [PendingRow.ofRecord] using hnot
      rw [hnil, List.append_nil]
      exact hs.rank q hq
    · obtain rfl := List.mem_singleton.mp hq
      have hall : (t.pending.filter fun y => y.instanceSequence < x.instanceSequence) =
          t.pending := List.filter_eq_self.mpr fun y hy => by simpa using hlt y hy
      change x.instanceSequence = (t.pending.filter (fun y =>
        y.instanceSequence < x.instanceSequence) ++ _).length
      rw [hall, h.next, ← hlen]
      simp [PendingRow.ofRecord]
  · rw [h.pending, h.finalizations, List.length_append, hlen]
    exact .inr rfl
  · intro q hq hql
    rw [h.pending] at hq
    rw [h.finalizations] at hql
    have hfin : ∀ d, t.IsFinalized d → t'.IsFinalized d := by
      rintro d ⟨f, hf, hfd⟩
      exact ⟨f, h.grows.finalizations.mem hf, hfd⟩
    rcases List.mem_append.mp hq with hq | hq
    · exact hfin _ (h.allFinalized q hq)
    · obtain rfl := List.mem_singleton.mp hq
      rw [PendingRow.ofRecord, h.next] at hql
      exact absurd hql (lt_irrefl _)

theorem AppendWritten.accepted (h : AppendWritten e x t t') (hk : t.Keys)
    (hp : t.profile = .modeled p) (hacc : ModeledAccepted t p) : ModeledAccepted t' p := by
  have hs := hacc.structured
  have hrows : (t.instanceOrder.filter fun q => t.IsFinalized q.eventDigest) =
      t.instanceOrder :=
    List.filter_eq_self.mpr fun q hq => by simpa using h.allFinalized q (mem_instanceOrder.mp hq)
  have hseal : ¬t.Sealed := fun hseal => by
    obtain ⟨d, hd⟩ := validateBlocked_sealed hacc.blocked hseal
    rw [unresolvedIntegrityDigest_none h.allFinalized] at hd
    simp at hd
  refine ⟨?_, h.foreignKeys, h.structured hk hs, ?_, ?_⟩
  · rw [qualifiedAcceptanceProfiles_eq h.grows.profile h.grows.acceptanceProfile]
    exact hacc.qualified
  · obtain ⟨s, hrep⟩ := hacc.replayed
    have hpassed : Passed t t.instanceOrder s := replayRows_passed hk
      (fun q hq => ⟨mem_instanceOrder.mp hq, h.allFinalized q (mem_instanceOrder.mp hq)⟩) hrep
    have hprev := previousIntegrityLineages_eq hk hs hpassed hrows (List.prefix_rfl) e.missionId
    refine ⟨s, ?_⟩
    rw [h.instanceOrder_eq hk hs, replayRows, foldlM_append_eq_ok]
    refine ⟨s, ?_, foldlM_singleton_eq_ok.mpr (replayStep_eq_ok.mpr
      ⟨⟨x, none, none, none⟩, e, ?_, ?_, ?_, by simp⟩)⟩
    · rw [foldlM_congr fun q hq s => h.grows.replayStep_eq hacc.foreignKeys p
        (h.fresh q (mem_instanceOrder.mp hq)) s]
      exact hrep
    · rw [PendingRow.ofRecord, h.eventDigest]
      exact h.loaded
    · rw [PendingRow.ofRecord, h.eventDigest]
      exact h.retained
    · rw [← authenticateRetained_eq_ok, authenticateRetained_eq h.grows.profile
        h.grows.acceptanceProfile, authenticateRetained_eq_ok]
      exact h.authenticated p _ _ hp hprev
  · refine h.grows.blocked hacc.foreignKeys hacc.blocked hseal fun _ _ o ho hod => ?_
    obtain ⟨q, hq, hqo⟩ := hacc.foreignKeys.observation o ho
    exact absurd (hqo.trans hod) (h.fresh q hq)

/-- What an insertion into `events` requires and does. -/
structure EventInserted (row : EventRow) (t t' : E.Db) : Prop where
  eq : t' = { t with events := t.events ++ [row] }
  digest : ∀ y ∈ t.events, y.digest ≠ row.digest
  seq : ∀ y ∈ t.events, (y.missionId, y.seq) ≠ (row.missionId, row.seq)

theorem insertEvent_spec {row : EventRow} (h : insertEvent E t row = .ok t') :
    EventInserted row t t' := by
  unfold insertEvent at h
  obtain ⟨-, h⟩ := unit_bind_eq_ok.mp h
  obtain ⟨-, h⟩ := unit_bind_eq_ok.mp h
  obtain ⟨-, h⟩ := unit_bind_eq_ok.mp h
  obtain ⟨-, h⟩ := unit_bind_eq_ok.mp h
  obtain ⟨-, h⟩ := unit_bind_eq_ok.mp h
  obtain ⟨-, h⟩ := unit_bind_eq_ok.mp h
  obtain ⟨hfree, h⟩ := unit_bind_eq_ok.mp h
  rw [refuseIf_eq_ok] at hfree
  push Not at hfree
  exact ⟨(Except.ok.inj h).symm, fun y hy => (hfree y hy).1, fun y hy => (hfree y hy).2⟩

theorem EventInserted.keys {row : EventRow} (h : EventInserted row t t') (hk : t.Keys) :
    t'.Keys := by
  obtain ⟨rfl, hd, hs⟩ := h
  exact { hk with
    eventDigest := nodup_map_snoc hk.eventDigest hd
    eventSeq := nodup_map_snoc hk.eventSeq hs }

theorem insertPending_spec {row : PendingRow} (h : insertPending E t row = .ok t') :
    t' = { t with pending := t.pending ++ [row] } ∧
      row.instanceSequence = t.finalizations.length ∧
      (∀ q ∈ t.pending, t.IsFinalized q.eventDigest) ∧
      (∀ q ∈ t.pending, q.eventDigest ≠ row.eventDigest) ∧ (t.Keys → t'.Keys) := by
  unfold insertPending at h
  obtain ⟨-, h⟩ := unit_bind_eq_ok.mp h
  obtain ⟨hseq, h⟩ := unit_bind_eq_ok.mp h
  obtain ⟨hopen, h⟩ := unit_bind_eq_ok.mp h
  obtain ⟨hfree, h⟩ := unit_bind_eq_ok.mp h
  obtain rfl := Except.ok.inj h
  rw [refuseIf_eq_ok] at hseq hopen hfree
  push Not at hseq hopen hfree
  refine ⟨rfl, hseq, hopen, fun q hq => (hfree q hq).1, fun hk => { hk with
    pendingDigest := nodup_map_snoc hk.pendingDigest fun q hq => (hfree q hq).1
    pendingSequence := nodup_map_snoc hk.pendingSequence fun q hq => (hfree q hq).2.1
    pendingMission := nodup_map_snoc hk.pendingMission fun q hq => (hfree q hq).2.2.2 }⟩

/-- What the checks of a dossier establish before it is inserted. -/
theorem admitPending_spec (h : admitPending E t e x b = .ok ()) :
    x.eventDigest = e.eventDigest ∧ x.missionId = e.missionId ∧ x.eventSeq = e.seq ∧
      ∀ p g m, t.profile = .modeled p → previousIntegrityLineages E t e.missionId = .ok (g, m) →
        Authenticated t p e ⟨x, none, none, none⟩ g m := by
  unfold admitPending at h
  obtain ⟨-, h⟩ := unit_bind_eq_ok.mp h
  obtain ⟨hbind, h⟩ := unit_bind_eq_ok.mp h
  rw [refuseIf_eq_ok] at hbind
  push Not at hbind
  refine ⟨hbind.1, hbind.2.1, hbind.2.2, fun p g m hp hgm => ?_⟩
  rw [hp] at h
  obtain ⟨hprof, h⟩ := unit_bind_eq_ok.mp h
  obtain ⟨prev, hprev, h⟩ := bind_eq_ok.mp h
  obtain ⟨hv, h⟩ := unit_bind_eq_ok.mp h
  obtain ⟨l, hl, hq⟩ := bind_eq_ok.mp h
  obtain ⟨rfl, -⟩ := construct_eq_ok (mapError_eq_ok.mp hl)
  obtain rfl : prev = (g, m) := Except.ok.inj (hprev.symm.trans hgm)
  rw [refuseIf_eq_ok] at hprof
  push Not at hprof
  obtain ⟨-, -, hpolicy, hauth⟩ := hprof
  rw [mapError_eq_ok, hpolicy] at hv
  exact ⟨hauth, hv, by simp, by simp, by simp, verifyQualifiedLineage_retained hq⟩

/-- An append passed its checks, inserted its rows, read them back and committed. -/
theorem appendVerifiedEvent_spec {c : Commit E × EventV1}
    (h : appendVerifiedEvent E cap t r = .ok c) :
    ∃ t', c = (.wrote t' true, r.event) ∧ admitAppend E t r = .ok () ∧
      appendRows E cap t r = .ok t' ∧ checkAppended E t' r = .ok () ∧
      t'.ForeignKeys E.vaultForeignKeys := by
  unfold appendVerifiedEvent at h
  obtain ⟨hchecks, h⟩ := unit_bind_eq_ok.mp h
  obtain ⟨t', ht', h⟩ := bind_eq_ok.mp h
  obtain ⟨hcheck, h⟩ := unit_bind_eq_ok.mp h
  obtain ⟨u, hu, h⟩ := bind_eq_ok.mp h
  obtain ⟨hfk, heq⟩ := commit_eq_ok.mp hu
  exact ⟨t', heq ▸ (Except.ok.inj h).symm, hchecks, ht', hcheck, hfk⟩

/-- Retaining staged artifacts changes the vault only. -/
theorem retainStaging_spec (h : retainStaging E cap t r = .ok t') :
    ∃ v, t' = { t with vault := v } := by
  unfold retainStaging at h
  split at h
  · exact ⟨t.vault, (Except.ok.inj h).symm⟩
  · obtain ⟨v, -, h⟩ := bind_eq_ok.mp h
    exact ⟨v, (Except.ok.inj h).symm⟩

/-- What is read back after an append is what was appended. -/
theorem checkAppended_spec (h : checkAppended E t r = .ok ()) :
    eventForIntegrityDigest E t r.event.eventDigest = .ok r.event ∧ ∀ x b,
      r.dossier = some (x, b) →
      loadIntegrityLineage E t r.event.eventDigest = .ok (some ⟨x, none, none, none⟩) := by
  unfold checkAppended at h
  have hrest : (do
      let retained ← eventForIntegrityDigest E t r.event.eventDigest
      refuseIf (retained ≠ r.event)
        (corruption "retained event did not replay exactly after append")
      checkDossier E t r : Except StoreError Unit) = .ok () := by
    split_ifs at h with hst
    · exact (unit_bind_eq_ok.mp h).2
    · exact h
  obtain ⟨y, hy, hrest⟩ := bind_eq_ok.mp hrest
  obtain ⟨hsame, hd⟩ := unit_bind_eq_ok.mp hrest
  rw [refuseIf_eq_ok, not_not] at hsame
  refine ⟨hsame ▸ hy, fun x b hx => ?_⟩
  unfold checkDossier at hd
  rw [hx] at hd
  obtain ⟨l, hl, hd⟩ := bind_eq_ok.mp hd
  rw [refuseIf_eq_ok, not_not] at hd
  exact hd ▸ hl

/-- An append with a dossier. -/
theorem appendRows_modeled (hx : r.dossier = some (x, b)) (h : appendRows E cap t r = .ok t')
    (hcheck : checkAppended E t' r = .ok ()) (hfk : t'.ForeignKeys E.vaultForeignKeys) :
    AppendWritten r.event x t t' := by
  unfold appendRows at h
  obtain ⟨u, hu, hrest⟩ := bind_eq_ok.mp h
  obtain ⟨w, hw, hinsert⟩ := bind_eq_ok.mp hrest
  obtain ⟨v, rfl⟩ := retainStaging_spec hu
  unfold retainDossier at hw
  rw [hx] at hw
  unfold insertIntegrityPending at hw
  obtain ⟨hchecks, hw⟩ := unit_bind_eq_ok.mp hw
  obtain ⟨-, hw⟩ := unit_bind_eq_ok.mp hw
  obtain ⟨y, hy, hw⟩ := bind_eq_ok.mp hw
  rw [mapError_eq_ok] at hy hinsert
  obtain ⟨rfl, hnext, hopen, hfresh, hpkeys⟩ := insertPending_spec hy
  obtain ⟨as, ms, rfl, hgrows, hadded, hekeys⟩ := retainIntegrityEvidence_grows hw
  have hins := insertEvent_spec hinsert
  obtain ⟨hd, hm, hs, hauth⟩ := admitPending_spec hchecks
  obtain ⟨hret, hload⟩ := checkAppended_spec hcheck
  have heq := hins.eq
  refine ⟨?_, by rw [heq], by rw [heq]; rfl, by rw [heq], hd, hm, hs, hnext, hopen,
    fun q hq => hd ▸ hfresh q hq, ?_, fun hk => hins.keys (hekeys (hpkeys { hk with })), hfk,
    hload x b hx, hret, fun p g m hp hgm => ?_⟩
  · -- The rows added are those of the event.
    have hmap := hgrows.mappings
    rw [hd] at hgrows hmap
    rw [heq]
    exact ⟨rfl, rfl, rfl, rfl, rfl, .snoc rfl, .snoc hd, .refl, .refl, .refl, hmap,
      hgrows.artifacts⟩
  · rw [heq]
    rw [hd] at hadded
    exact ⟨hadded.mapped, hadded.evidence⟩
  · have ha := hauth p g m hp hgm
    exact ⟨ha.binding, ha.pending, ha.anchor, ha.candidate, ha.finalization, ha.qualified⟩

/-- An append without a dossier. -/
theorem appendRows_legacy (hx : r.dossier = none) (h : appendRows E cap t r = .ok t') :
    ∃ v, EventInserted (.ofEvent r.event) { t with vault := v } t' := by
  unfold appendRows at h
  obtain ⟨u, hu, hrest⟩ := bind_eq_ok.mp h
  obtain ⟨w, hw, hinsert⟩ := bind_eq_ok.mp hrest
  obtain ⟨v, rfl⟩ := retainStaging_spec hu
  unfold retainDossier at hw
  rw [hx] at hw
  obtain rfl := Except.ok.inj hw
  rw [mapError_eq_ok] at hinsert
  exact ⟨v, insertEvent_spec hinsert⟩

/-- Either way the events gain the appended one. -/
theorem appendRows_events (h : appendRows E cap t r = .ok t') :
    t'.events = t.events ++ [.ofEvent r.event] := by
  unfold appendRows at h
  obtain ⟨u, hu, hrest⟩ := bind_eq_ok.mp h
  obtain ⟨w, hw, hinsert⟩ := bind_eq_ok.mp hrest
  obtain ⟨v, rfl⟩ := retainStaging_spec hu
  have hevents : w.events = t.events := by
    unfold retainDossier at hw
    split at hw
    · rw [← Except.ok.inj hw]
    · unfold insertIntegrityPending at hw
      obtain ⟨-, hw⟩ := unit_bind_eq_ok.mp hw
      obtain ⟨-, hw⟩ := unit_bind_eq_ok.mp hw
      obtain ⟨y, hy, hw⟩ := bind_eq_ok.mp hw
      obtain ⟨rfl, -⟩ := insertPending_spec (mapError_eq_ok.mp hy)
      obtain ⟨as, ms, rfl, -⟩ := retainIntegrityEvidence_grows hw
      rfl
  rw [(insertEvent_spec (mapError_eq_ok.mp hinsert)).eq, hevents]

/-- The dossier comes with the modeled profile. -/
theorem admitAppend_dossier (h : admitAppend E t r = .ok ()) :
    t.profile = .legacy ↔ r.dossier = none := by
  unfold admitAppend at h
  obtain ⟨u, -, h⟩ := bind_eq_ok.mp h
  obtain ⟨-, h⟩ := unit_bind_eq_ok.mp h
  obtain ⟨h1, h⟩ := unit_bind_eq_ok.mp h
  obtain ⟨h2, -⟩ := unit_bind_eq_ok.mp h
  rw [refuseIf_eq_ok] at h1 h2
  push Not at h1 h2
  constructor
  · intro hp
    simpa using h2 hp
  · intro hd
    by_contra hp
    simpa [hd] using h1 hp

/-- An append to a legacy store leads to an accepted one. -/
theorem EventInserted.accepted {row : EventRow} {v : E.Vault}
    (h : EventInserted row { t with vault := v } t') (hk : t.Keys) (hp : t.profile = .legacy)
    (hacc : Accepted t) (hfk : t'.ForeignKeys E.vaultForeignKeys) : t'.Keys ∧ Accepted t' := by
  have hl := (accepted_legacy hp).mp hacc
  have heq := h.eq
  refine ⟨h.keys { hk with }, (accepted_legacy (by rw [heq]; exact hp)).mpr ?_⟩
  rw [heq] at hfk ⊢
  exact { hl with foreignKeys := hfk }

end Appends

end Etzio
