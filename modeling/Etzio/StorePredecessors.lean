import Etzio.StoreRuns

/-!
# The predecessors of a transition

The store computes the finalized predecessors of a transition in three ways : as the
running values of the replay, by index arithmetic on the two sequences, and at a write by
descending queries over what is finalized. They agree in every reachable state
(`predecessors_agree`), the last one with what the other two give in every later state :
a write keeps the instance order and every finalized lineage (`KeepsLineages`), so the
predecessors of a retained transition never change.
-/

open CheckedRun Rows

namespace Etzio

variable {E : Env}

/-! ## Accepted tables -/

section Accepted

variable {t t' : E.Db} {p : ModeledProfile} {pre post rows : List PendingRow}
  {s s' : Predecessors} {r : PendingRow}

/-- The running predecessors when the replay reaches a row are those found by index. -/
theorem ModeledAccepted.predecessors_at (hm : ModeledAccepted t p) (hk : t.Keys)
    (hp : t.profile = .modeled p) (horder : t.instanceOrder = pre ++ r :: post) :
    ∃ s, replayRows E t p pre = .ok s ∧ Passed t pre s ∧
      predecessorLineages E t r.eventDigest = .ok (s.global, s.byMission.lookup r.missionId) := by
  obtain ⟨s', hs'⟩ := hm.replayed
  obtain ⟨s, u, hs, hpassed, -⟩ := replay_at hk hm.structured hs' horder
  have hnum := replay_numbered hk hm.structured hs'
  exact ⟨s, hs, hpassed,
    predecessorLineages_eq hk hm.structured (by simp [hp]) hnum horder hpassed⟩

/-- The predecessors of the open transition are what is finalized last. -/
theorem ModeledAccepted.previous_of_open (hm : ModeledAccepted t p) (hk : t.Keys)
    (hp : t.profile = .modeled p) (horder : t.instanceOrder = pre ++ [r])
    (hr : ¬t.IsFinalized r.eventDigest) :
    previousIntegrityLineages E t r.missionId = predecessorLineages E t r.eventDigest := by
  obtain ⟨s, -, hpassed, hpred⟩ := hm.predecessors_at hk hp horder
  have hrows : (t.instanceOrder.filter fun q => t.IsFinalized q.eventDigest) = pre := by
    rw [horder, List.filter_append, List.filter_eq_self.mpr fun q hq => by
      simpa using hm.structured.isFinalized_of_before hk horder hq]
    simp [hr]
  rw [hpred]
  exact previousIntegrityLineages_eq hk hm.structured hpassed hrows ⟨[r], horder.symm⟩ _

/-- Two passes over rows with the same lineages run to the same predecessors. -/
theorem Passed.congr (h : Passed t rows s) (h' : Passed t' rows s')
    (hl : ∀ q ∈ rows, lineageOf t' q = lineageOf t q) :
    s'.global = s.global ∧ ∀ m, s'.byMission.lookup m = s.byMission.lookup m := by
  have hbind : ∀ o : Option PendingRow, (∀ q, o = some q → q ∈ rows) →
      o.bind (lineageOf t') = o.bind (lineageOf t) := by
    intro o ho
    cases o with
    | none => rfl
    | some q => exact hl q (ho q rfl)
  constructor
  · rw [h'.global, h.global]
    exact hbind _ fun q hq => List.mem_of_getLast? hq
  · intro m
    rw [h'.mission, h.mission]
    exact hbind _ fun q hq => (mem_of_lastOf hq).1

end Accepted

/-! ## What a write keeps -/

/-- The rows keep their places, and finalized lineages load as before. -/
structure KeepsLineages (t t' : E.Db) : Prop where
  profile : t'.profile = t.profile
  order : t.instanceOrder <+: t'.instanceOrder
  loaded : ∀ r ∈ t.pending, t.IsFinalized r.eventDigest →
    loadIntegrityLineage E t' r.eventDigest = loadIntegrityLineage E t r.eventDigest

section Keeps

variable {t t' : E.Db} {p : ModeledProfile} {d : Digest} {phase : EvidencePhase}
  {r : PendingRow}

theorem AppendWritten.keepsLineages {e : EventV1} {x : PendingIntegrityTransitionV1}
    (h : AppendWritten e x t t') (hk : t.Keys) (hm : ModeledAccepted t p) : KeepsLineages t t' where
  profile := h.grows.profile
  order := ⟨_, (h.instanceOrder_eq hk hm.structured).symm⟩
  loaded r hr _ := h.grows.loadIntegrityLineage_eq hm.foreignKeys (h.fresh r hr)

theorem PhaseWritten.keepsLineages {l l' : IntegrityLineageV1} (h : PhaseWritten d phase l l' t t')
    (hk : t.Keys) (hm : ModeledAccepted t p) : KeepsLineages t t' where
  profile := h.grows.profile
  order := by
    rw [Tables.instanceOrder, Tables.instanceOrder, h.pending]
  loaded r _ hr := by
    obtain ⟨-, -, -, -, -, -, hopen⟩ := hm.structured.unresolved_last hk h.unresolved
    exact h.grows.loadIntegrityLineage_eq hm.foreignKeys fun hd => hopen (hd ▸ hr)

theorem Written.keepsLineages (h : Written t t') (hk : t.Keys) (hp : t.profile = .modeled p)
    (hm : ModeledAccepted t p) : KeepsLineages t t' := by
  cases h with
  | appended r v _ hleg => simp [hleg] at hp
  | appendedPending r x q _ _ h => exact h.keepsLineages hk hm
  | phase d phase l l' hl h => exact h.keepsLineages hk hm
  | observed o h => rw [h.eq]; exact ⟨rfl, List.prefix_rfl, fun _ _ _ => rfl⟩
  | decided d h => rw [h.eq]; exact ⟨rfl, List.prefix_rfl, fun _ _ _ => rfl⟩
  | recoveryEnrolled x h => rw [h.eq]; exact ⟨rfl, List.prefix_rfl, fun _ _ _ => rfl⟩
  | modeledEnrolled q h => simp [h.legacy] at hp
  | qualifiedEnrolled q h => rw [h.eq]; exact ⟨rfl, List.prefix_rfl, fun _ _ _ => rfl⟩
  | checkpointed c h => simp [h.legacy] at hp

/-- The predecessors of a retained transition stay what they were. -/
theorem KeepsLineages.predecessorLineages_eq (h : KeepsLineages t t') (hk : t.Keys)
    (hk' : t'.Keys) (hp : t.profile = .modeled p) (hm : ModeledAccepted t p)
    (hm' : ModeledAccepted t' p) (hr : r ∈ t.pending) :
    predecessorLineages E t' r.eventDigest = predecessorLineages E t r.eventDigest := by
  obtain ⟨pre, post, horder⟩ := List.append_of_mem (mem_instanceOrder.mpr hr)
  obtain ⟨more, hmore⟩ := h.order
  have horder' : t'.instanceOrder = pre ++ r :: (post ++ more) := by
    rw [← hmore, horder]
    simp
  obtain ⟨s, -, hs, hpred⟩ := hm.predecessors_at hk hp horder
  obtain ⟨s', -, hs', hpred'⟩ := hm'.predecessors_at hk' (h.profile.trans hp) horder'
  obtain ⟨hglobal, hmission⟩ := hs.congr hs' fun q hq => by
    have hmem : q ∈ t.pending := mem_instanceOrder.mp (by simp [horder, hq])
    rw [lineageOf, lineageOf,
      h.loaded q hmem (hm.structured.isFinalized_of_before hk horder hq)]
  rw [hpred, hpred', hglobal, hmission]

end Keeps

/-! ## The moment of a write -/

/-- The write retained a phase of the event's transition, its pending record or a later
one. -/
def Retains (t t' : E.Db) (d : Digest) : Prop :=
  ∃ phase, t'.HasPhase phase d ∧ ¬t.HasPhase phase d

section Moment

variable {t t' : E.Db} {p : ModeledProfile} {d : Digest} {r : PendingRow}

theorem Grows.retains_eq (h : Grows d t t') {x : Digest} (hx : Retains t t' x) : x = d := by
  obtain ⟨phase, hnew, hold⟩ := hx
  by_contra hne
  refine hold ?_
  cases phase with
  | pending =>
    obtain ⟨q, hq, hqx⟩ := hnew
    exact ⟨q, (h.pending.mem_or hq).resolve_right fun hd => hne (hqx ▸ hd), hqx⟩
  | anchorStatement =>
    obtain ⟨q, hq, hqx⟩ := hnew
    exact ⟨q, (h.anchors.mem_or hq).resolve_right fun hd => hne (hqx ▸ hd), hqx⟩
  | checkpointCandidate =>
    obtain ⟨q, hq, hqx⟩ := hnew
    exact ⟨q, (h.candidates.mem_or hq).resolve_right fun hd => hne (hqx ▸ hd), hqx⟩
  | finalization =>
    obtain ⟨q, hq, hqx⟩ := hnew
    exact ⟨q, (h.finalizations.mem_or hq).resolve_right fun hd => hne (hqx ▸ hd), hqx⟩

theorem not_retains (h : t'.pending = t.pending ∧ t'.anchors = t.anchors ∧
    t'.candidates = t.candidates ∧ t'.finalizations = t.finalizations) : ¬Retains t t' d := by
  obtain ⟨hp, ha, hc, hf⟩ := h
  rintro ⟨phase, hnew, hold⟩
  refine hold ?_
  cases phase with
  | pending => rwa [Tables.HasPhase, ← hp]
  | anchorStatement => rwa [Tables.HasPhase, ← ha]
  | checkpointCandidate => rwa [Tables.HasPhase, ← hc]
  | finalization => rwa [Tables.HasPhase, ← hf]

/-- The predecessors an append uses are those of the transition it appends. -/
theorem AppendWritten.previous_eq {e : EventV1} {x : PendingIntegrityTransitionV1}
    (h : AppendWritten e x t t') (hk : t.Keys) (hp : t.profile = .modeled p)
    (hm : ModeledAccepted t p) :
    previousIntegrityLineages E t x.missionId = predecessorLineages E t' x.eventDigest := by
  have horder := h.instanceOrder_eq hk hm.structured
  have hm' := h.accepted hk hp hm
  have hp' := h.grows.profile.trans hp
  obtain ⟨s', -, hs', hpred⟩ := hm'.predecessors_at (h.keys hk) hp' horder
  obtain ⟨s, hs⟩ := hm.replayed
  have hpassed := replayRows_passed hk (fun q hq =>
    ⟨mem_instanceOrder.mp hq, h.allFinalized q (mem_instanceOrder.mp hq)⟩) hs
  have hrows : (t.instanceOrder.filter fun q => t.IsFinalized q.eventDigest) =
      t.instanceOrder :=
    List.filter_eq_self.mpr fun q hq => by simpa using h.allFinalized q (mem_instanceOrder.mp hq)
  obtain ⟨hglobal, hmission⟩ := hpassed.congr hs' fun q hq => by
    have hmem := mem_instanceOrder.mp hq
    rw [lineageOf, lineageOf, h.grows.loadIntegrityLineage_eq hm.foreignKeys (h.fresh q hmem)]
  rw [previousIntegrityLineages_eq hk hm.structured hpassed hrows List.prefix_rfl]
  change _ = predecessorLineages E t' (PendingRow.ofRecord E.integrity x).eventDigest
  rw [hpred, hglobal, hmission]
  rfl

/-- When a phase of a transition is written, the predecessors found by query are those
the transition has afterwards. -/
theorem Written.previous_eq (h : Written t t') (hk : t.Keys) (hacc : Accepted t)
    (hr : r ∈ t'.pending) (hw : Retains t t' r.eventDigest) :
    previousIntegrityLineages E t r.missionId = predecessorLineages E t' r.eventDigest := by
  have hk' := (h.accepted hk hacc).1
  cases h with
  | appendedPending a x p _ hp h =>
    have hm := (accepted_modeled hk hp).mp hacc
    have hd := h.grows.retains_eq hw
    have hx : PendingRow.ofRecord E.integrity x ∈ t'.pending := by rw [h.pending]; simp
    obtain rfl : r = .ofRecord E.integrity x :=
      List.inj_on_of_nodup_map hk'.pendingDigest hr hx (hd.trans h.eventDigest.symm)
    exact h.previous_eq hk hp hm
  | phase d phase l l' hl h =>
    have hd := h.grows.retains_eq hw
    rw [h.pending] at hr
    cases hp : t.profile with
    | legacy =>
      have hnil := ((accepted_legacy hp).mp hacc).pending
      simp [hnil] at hr
    | modeled p =>
      have hm := (accepted_modeled hk hp).mp hacc
      have hm' := (accepted_modeled hk' (h.grows.profile.trans hp)).mp (h.accepted hk hacc hl)
      obtain ⟨init, y, horder, hyd, -, -, hopen⟩ := hm.structured.unresolved_last hk h.unresolved
      have hy : y ∈ t.pending := mem_instanceOrder.mp (by simp [horder])
      obtain rfl : r = y :=
        List.inj_on_of_nodup_map hk.pendingDigest hr hy (hd.trans hyd.symm)
      rw [hm.previous_of_open hk hp horder (hyd ▸ hopen),
        (h.keepsLineages hk hm).predecessorLineages_eq hk hk' hp hm hm' hr]
  | appended a v _ _ h => exact absurd hw (not_retains (by rw [h.eq]; simp))
  | observed o h => exact absurd hw (not_retains (by rw [h.eq]; simp))
  | decided d h => exact absurd hw (not_retains (by rw [h.eq]; simp))
  | recoveryEnrolled x h => exact absurd hw (not_retains (by rw [h.eq]; simp))
  | modeledEnrolled q h => exact absurd hw (not_retains (by rw [h.eq]; simp))
  | qualifiedEnrolled q h => exact absurd hw (not_retains (by rw [h.eq]; simp))
  | checkpointed c h => exact absurd hw (not_retains (by rw [h.eq]; simp))

end Moment

/-! ## Runs -/

/-- Only an enrolled store has pending transitions. -/
theorem Accepted.modeled_of_pending {t : E.Db} {r : PendingRow} (hacc : Accepted t)
    (hr : r ∈ t.pending) : ∃ p, t.profile = .modeled p := by
  cases hp : t.profile with
  | legacy =>
    have hnil := ((accepted_legacy hp).mp hacc).pending
    simp [hnil] at hr
  | modeled p => exact ⟨p, rfl⟩

/-- Along a run the predecessors of a retained transition stay what they are. -/
theorem Reaches.predecessorLineages_eq {s s' : Sys E} {r : PendingRow} (h : CacheSound s)
    (hr : r ∈ s.tables.pending) (hrun : Reaches s s') :
    predecessorLineages E s'.tables r.eventDigest =
      predecessorLineages E s.tables r.eventDigest := by
  refine (hrun.invariant (P := fun t => r ∈ t.pending ∧
    predecessorLineages E t r.eventDigest = predecessorLineages E s.tables r.eventDigest)
    ?_ h ⟨hr, rfl⟩).2
  rintro σ y cap t t' published reply hk hacc ⟨hmem, heq⟩ hx
  have hw := Txn.body_written hx
  obtain ⟨p, hp⟩ := hacc.modeled_of_pending hmem
  have hm := (accepted_modeled hk hp).mp hacc
  have hkeeps := hw.keepsLineages hk hp hm
  obtain ⟨hk', hacc'⟩ := hw.accepted hk hacc
  have hm' := (accepted_modeled hk' (hkeeps.profile.trans hp)).mp hacc'
  refine ⟨mem_instanceOrder.mp (hkeeps.order.subset (mem_instanceOrder.mpr hmem)), ?_⟩
  rw [hkeeps.predecessorLineages_eq hk hk' hp hm hm' hmem, heq]

/-- In every reachable state and for every retained transition, the running values of
the replay, the lookup by index and, from the moment a phase of it was written on, the
descending queries of that moment give the same predecessors. None is ever missing. -/
theorem predecessors_agree {s : Sys E} (h : s.Reachable) :
    (∀ r ∈ s.tables.pending, ∃ p pre post run, s.tables.profile = .modeled p ∧
      s.tables.instanceOrder = pre ++ r :: post ∧ replayRows E s.tables p pre = .ok run ∧
      predecessorLineages E s.tables r.eventDigest =
        .ok (run.global, run.byMission.lookup r.missionId)) ∧
    ∀ (ρ : Type) (i : ℕ) (x : Txn E ρ) (reply : Except StoreError ρ) (s' s'' : Sys E),
      Step s i x reply s' → Reaches s' s'' →
      ∀ r ∈ s'.tables.pending, Retains s.tables s'.tables r.eventDigest →
        previousIntegrityLineages E s.tables r.missionId =
          predecessorLineages E s''.tables r.eventDigest := by
  have hsound := h.cacheSound
  refine ⟨fun r hr => ?_, fun ρ i x reply s' s'' hs hrun r hr hw => ?_⟩
  · rcases h.accepted with hfresh | hacc
    · rw [hfresh] at hr
      simp [Env.freshDb] at hr
    · obtain ⟨p, hp⟩ := hacc.modeled_of_pending hr
      have hm := (accepted_modeled hsound.keys hp).mp hacc
      obtain ⟨pre, post, horder⟩ := List.append_of_mem (mem_instanceOrder.mpr hr)
      obtain ⟨run, hrun, -, hpred⟩ := hm.predecessors_at hsound.keys hp horder
      exact ⟨p, pre, post, run, hp, horder, hrun, hpred⟩
  · rw [hrun.predecessorLineages_eq (hsound.step hs) hr]
    rcases hs.written hsound with heq | ⟨_, _, -, hacc, hx⟩
    · exact absurd hw (not_retains (by rw [heq]; simp))
    · exact (Txn.body_written hx).previous_eq hsound.keys hacc hr hw

/-- The second transition, when it is prepared and afterwards. -/
theorem predecessors_agree_sample : ∃ r ∈ samplePended.tables.pending,
    Retains sampleFinalized.tables samplePended.tables r.eventDigest ∧
    previousIntegrityLineages sampleEnv sampleFinalized.tables r.missionId =
      predecessorLineages sampleEnv samplePended.tables r.eventDigest ∧
    ∃ p pre post run, samplePended.tables.profile = .modeled p ∧
      samplePended.tables.instanceOrder = pre ++ r :: post ∧
      replayRows sampleEnv samplePended.tables p pre = .ok run ∧
      predecessorLineages sampleEnv samplePended.tables r.eventDigest =
        .ok (run.global, run.byMission.lookup r.missionId) := by
  have hnew : ∃ r ∈ samplePended.tables.pending,
      samplePended.tables.HasPhase .pending r.eventDigest ∧
      ¬sampleFinalized.tables.HasPhase .pending r.eventDigest := by decide +kernel
  obtain ⟨r, hr, hphase⟩ := hnew
  refine ⟨r, hr, ⟨_, hphase⟩, ?_, (predecessors_agree samplePended_reachable).1 r hr⟩
  let x : Txn sampleEnv EventV1 := .appendVerifiedEvent (sampleRequest 1 sampleSecond).append
  have hs : Step sampleFinalized 1 x (sampleFinalized.perform 1 x).1 samplePended :=
    sampleFinalized.perform_step 1 x
  exact (predecessors_agree sampleFinalized_reachable).2 _ _ _ _ _ _ hs .refl r hr ⟨_, hphase⟩

end Etzio
