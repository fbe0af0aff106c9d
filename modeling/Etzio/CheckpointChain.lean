import Etzio.StoreRuns

/-!
# The checkpoint chain

Each validator looks at one transition and its predecessors. Over a whole accepted store
they add up to one order of everything that is finalized (`checkpoint_chain`) :

* the checkpoints form a chain in instance order through their previous-checkpoint
  fields, and those of each mission a second one through the previous-mission fields;
* the trusted intervals follow one another : decision, event, checkpoint, next decision;
* in every revocation namespace the versions only advance;
* the floors retained with a finalization name its own checkpoint.

`Follows` is what the replay establishes about one finalized transition and the two it
follows, and `CheckpointChain` what a list of them has when each follows those before it.
-/

open CheckedRun Rows

namespace Etzio

/-! ## Finalized transitions -/

/-- A finalized transition : its event, its decision, its authenticated checkpoint and the
floor retained with its finalization. -/
structure FinalizedTransition where
  event : EventV1
  decision : IntegrityDecisionV1
  checkpoint : AuthenticatedHeadCheckpointV1
  floor : HeadCheckpointFloorV1

/-- The head checkpoint of a finalized transition. -/
def FinalizedTransition.head (x : FinalizedTransition) : HeadCheckpointV1 :=
  x.checkpoint.checkpoint

/-- In every namespace of `d` the later decision has a view that is not older, and one of
the same version is the same view. -/
def RevocationAdvances (d d' : IntegrityDecisionV1) : Prop :=
  ∀ v ∈ d.revocationViews, ∃ w ∈ d'.revocationViews,
    w.revocationNamespace = v.revocationNamespace ∧ v.rootVersion ≤ w.rootVersion ∧
      v.version ≤ w.version ∧ (v.version = w.version → v = w)

theorem RevocationAdvances.trans {d d' d'' : IntegrityDecisionV1} (h : RevocationAdvances d d')
    (h' : RevocationAdvances d' d'') : RevocationAdvances d d'' := by
  intro v hv
  obtain ⟨w, hw, hn, hr, hver, heq⟩ := h v hv
  obtain ⟨u, hu, hn', hr', hver', heq'⟩ := h' w hw
  refine ⟨u, hu, hn'.trans hn, hr.trans hr', hver.trans hver', fun hvu => ?_⟩
  -- Between two equal versions there is no other one.
  have hvw : v.version = w.version := le_antisymm hver (hvu ▸ hver')
  rw [heq hvw, heq' (hvw ▸ hvu)]

variable (I : IntegrityPrimitives)

/-- The reference a genesis identity has as a predecessor. -/
def genesisRef (genesis : Digest) : CheckpointRef := ⟨genesis, none, none, none⟩

theorem CheckpointRef.Unattested.eq_genesisRef {r : CheckpointRef} (h : r.Unattested) :
    r = genesisRef r.checkpointId := by
  obtain ⟨i, a, p, t⟩ := r
  obtain ⟨rfl, rfl, rfl⟩ := h
  rfl

/-- What a checkpoint names as its predecessor. -/
def predecessorRef (genesis : Digest) (previous : Option AuthenticatedHeadCheckpointV1) :
    CheckpointRef :=
  previous.elim (genesisRef genesis) fun y => y.ref I

/-- The sequence number after a predecessor's. -/
def succOf (index : HeadCheckpointV1 → ℕ) (previous : Option AuthenticatedHeadCheckpointV1) : ℕ :=
  previous.elim 0 fun y => index y.checkpoint + 1

/-- What holds of a finalized transition and the finalized transitions it follows, in the
instance and in its mission. -/
structure Follows (x : FinalizedTransition) (global mission : Option FinalizedTransition) :
    Prop where
  eventDigest : x.head.eventDigest = x.event.eventDigest
  missionId : x.head.missionId = x.event.missionId
  eventSeq : x.head.eventSeq = x.event.seq
  instanceSequence : x.head.instanceSequence =
    succOf (·.instanceSequence) (global.map FinalizedTransition.checkpoint)
  missionSequence : x.head.eventSeq =
    succOf (·.eventSeq) (mission.map FinalizedTransition.checkpoint)
  previousCheckpoint : x.head.previousCheckpoint = predecessorRef I
    (I.headCheckpointGenesisId x.head.serviceInstanceId x.head.environmentId)
    (global.map FinalizedTransition.checkpoint)
  previousMissionCheckpoint : x.head.previousMissionCheckpoint = predecessorRef I
    (I.missionCheckpointGenesisId x.head.serviceInstanceId x.head.environmentId
      x.head.missionId) (mission.map FinalizedTransition.checkpoint)
  scope : ∀ y ∈ global, x.head.serviceInstanceId = y.head.serviceInstanceId ∧
    x.head.environmentId = y.head.environmentId
  decisionTime : x.decision.timeUpperBound = x.event.decisionTime
  checkpointTime : x.decision.timeUpperBound ≤ x.head.timeLowerBound
  afterPrevious : ∀ y ∈ global, y.head.timeUpperBound ≤ x.decision.timeLowerBound
  revocation : ∀ y ∈ global, RevocationAdvances y.decision x.decision
  globalFloor : globalFloorMatchesCheckpoint I x.floor x.checkpoint
  missionFloor : missionFloorMatchesCheckpoint I x.floor x.checkpoint
  floorMission : x.floor.missionId = x.head.missionId

/-! ## What a validated finalization follows -/

section Validation

variable {I} {e : EventV1} {p : PendingIntegrityTransitionV1} {a : AnchorStatementRecordV1}
  {c : CheckpointCandidateRecordV1} {l : IntegrityLineageV1}
  {g m : Option IntegrityLineageV1} {d : AuthenticatedIntegrityDecisionV1}
  {x : AuthenticatedHeadCheckpointV1} {floor : HeadCheckpointFloorV1}
  {trust decisionTrust : IntegrityTrustStore} {policy : IntegrityValidationPolicyV1}

/-- The authenticated checkpoint of a lineage that has a candidate. -/
def lineageCheckpoint (I : IntegrityPrimitives) (l : IntegrityLineageV1) :
    Except IntegrityError AuthenticatedHeadCheckpointV1 := do
  let c ← orRefuse l.checkpointCandidate
    ⟨"unfinalized_integrity_predecessor", "the transition has no checkpoint candidate"⟩
  let d ← authenticatedDecisionSelf I l.pending
  authenticatedCheckpointSelf I c d l.pending.validationPolicy

theorem authenticatedDecisionSelf_decision (h : authenticatedDecisionSelf I p = .ok d) :
    d.decision = p.decision := by
  unfold authenticatedDecisionSelf authenticateIntegrityDecision at h
  obtain ⟨k, -, h⟩ := bind_eq_ok.mp h
  simp only [unit_bind_eq_ok] at h
  obtain ⟨-, -, -, -, -, h⟩ := h
  rw [← Except.ok.inj h]
  rfl

/-- The values of a predecessor are its decision and its checkpoint. -/
theorem authenticatedLineageValues_spec
    {y : AuthenticatedIntegrityDecisionV1 × AuthenticatedHeadCheckpointV1 × IntegrityTrustStore}
    (h : authenticatedLineageValues I l = .ok y) :
    lineageCheckpoint I l = .ok y.2.1 ∧ y.1.decision = l.pending.decision := by
  unfold authenticatedLineageValues at h
  obtain ⟨l', hl, h⟩ := bind_eq_ok.mp h
  rw [(construct_eq_ok hl).1] at h
  obtain ⟨c, hc, h⟩ := orRefuse_bind_eq_ok.mp h
  obtain ⟨-, h⟩ := unit_bind_eq_ok.mp h
  obtain ⟨d, hd, h⟩ := bind_eq_ok.mp h
  obtain ⟨z, hz, h⟩ := bind_eq_ok.mp h
  rw [← Except.ok.inj h]
  exact ⟨orRefuse_bind_eq_ok.mpr ⟨c, hc, bind_eq_ok.mpr ⟨d, hd, hz⟩⟩,
    authenticatedDecisionSelf_decision hd⟩

/-- A predecessor that was authenticated, with its decision and its checkpoint. -/
theorem authenticatedPredecessor_spec
    {y : Option (AuthenticatedIntegrityDecisionV1 × AuthenticatedHeadCheckpointV1 ×
      IntegrityTrustStore)} (h : authenticatedPredecessor I g = .ok y) :
    (g = none ∧ y = none) ∨ ∃ l z, g = some l ∧ y = some z ∧
      lineageCheckpoint I l = .ok z.2.1 ∧ z.1.decision = l.pending.decision := by
  cases g with
  | none => exact .inl ⟨rfl, (Except.ok.inj h).symm⟩
  | some l =>
    obtain ⟨z, hz, h⟩ := bind_eq_ok.mp h
    obtain ⟨hc, hd⟩ := authenticatedLineageValues_spec hz
    exact .inr ⟨l, z, rfl, (Except.ok.inj h).symm, hc, hd⟩

theorem mem_of_viewOf {views : List RevocationViewV1} {n : String} {v : RevocationViewV1}
    (h : viewOf views n = some v) : v ∈ views ∧ v.revocationNamespace = n :=
  ⟨List.mem_of_find?_eq_some h, by simpa using List.find?_some h⟩

theorem validateNamespaceAdvance_spec {views : List RevocationViewV1}
    {floors : List RevocationFloorV1} {v : RevocationViewV1}
    (h : validateNamespaceAdvance views floors v = .ok ()) :
    ∃ w ∈ views, w.revocationNamespace = v.revocationNamespace ∧
      v.rootVersion ≤ w.rootVersion ∧ v.version ≤ w.version ∧ (v.version = w.version → v = w) := by
  unfold validateNamespaceAdvance at h
  obtain ⟨w, hw, h⟩ := orRefuse_bind_eq_ok.mp h
  obtain ⟨hroot, h⟩ := unit_bind_eq_ok.mp h
  obtain ⟨hver, h⟩ := unit_bind_eq_ok.mp h
  obtain ⟨hsame, -⟩ := unit_bind_eq_ok.mp h
  rw [refuseIf_eq_ok] at hroot hver hsame
  push Not at hroot hver hsame
  obtain ⟨hmem, hn⟩ := mem_of_viewOf hw
  exact ⟨w, hmem, hn, hroot, hver, fun heq => (hsame heq.symm).symm⟩

/-- An accepted decision advances the revocation state of the one before it. -/
theorem validateRevocationAdvance_spec {floors : List RevocationFloorV1}
    {previousTrust : Option IntegrityTrustStore}
    {y : AuthenticatedIntegrityDecisionV1 × AuthenticatedHeadCheckpointV1 × IntegrityTrustStore}
    (h : validateRevocationAdvance I d trust previousTrust (some y) floors policy = .ok ()) :
    RevocationAdvances y.1.decision d.decision := by
  unfold validateRevocationAdvance at h
  simp only [unit_bind_eq_ok] at h
  obtain ⟨-, -, -, -, -, -, -, -, hviews, -⟩ := h
  intro v hv
  exact validateNamespaceAdvance_spec (forM_eq_ok.mp hviews v hv)

/-- The decision of an accepted dossier, and its advance on the previous one. -/
theorem authenticatePendingIntegrityTransition_spec
    (h : authenticatePendingIntegrityTransition I p e g = .ok d) :
    authenticatedDecisionSelf I p = .ok d ∧ PendingBindsEvent p e ∧
      ∀ l, g = some l → RevocationAdvances l.pending.decision p.decision := by
  have hbinds := authenticatePendingIntegrityTransition_event h
  unfold authenticatePendingIntegrityTransition at h
  obtain ⟨-, h⟩ := unit_bind_eq_ok.mp h
  obtain ⟨d', hd, h⟩ := bind_eq_ok.mp h
  obtain ⟨y, hy, h⟩ := bind_eq_ok.mp h
  obtain ⟨hadv, h⟩ := unit_bind_eq_ok.mp h
  obtain rfl := Except.ok.inj h
  refine ⟨hd, hbinds, fun l hl => ?_⟩
  rcases authenticatedPredecessor_spec hy with ⟨hnone, -⟩ | ⟨l', z, hl', rfl, -, hz⟩
  · rw [hnone] at hl
    cases hl
  · obtain rfl : l' = l := Option.some.inj (hl'.symm.trans hl)
    have hview := validateRevocationAdvance_spec hadv
    rwa [hz, authenticatedDecisionSelf_decision hd] at hview

theorem validateCheckpointDecisionSemantics_spec {v : HeadCheckpointV1}
    (h : validateCheckpointDecisionSemantics I v d = .ok ()) :
    v.missionId = d.decision.missionId ∧ v.eventDigest = d.decision.proposedEventDigest ∧
      d.decision.timeUpperBound ≤ v.timeLowerBound := by
  unfold validateCheckpointDecisionSemantics at h
  obtain ⟨hbind, htime⟩ := unit_bind_eq_ok.mp h
  rw [refuseIf_eq_ok] at hbind htime
  push Not at hbind htime
  exact ⟨hbind.2.2.1, hbind.2.2.2.2.2.2.2.2.2, htime⟩

/-- A first checkpoint names the instance genesis, and a later one its predecessor. -/
theorem validateGlobalAdvance_spec {v : HeadCheckpointV1} {d : IntegrityDecisionV1}
    {previous : Option AuthenticatedHeadCheckpointV1} {genesis : Digest}
    (h : validateGlobalAdvance I v d previous genesis = .ok ()) :
    v.instanceSequence = succOf (·.instanceSequence) previous ∧
      v.previousCheckpoint = predecessorRef I genesis previous ∧
      ∀ y ∈ previous, (v.serviceInstanceId = y.checkpoint.serviceInstanceId ∧
        v.environmentId = y.checkpoint.environmentId) ∧
        y.checkpoint.timeUpperBound ≤ d.timeLowerBound := by
  unfold validateGlobalAdvance at h
  cases previous with
  | none =>
    rw [refuseIf_eq_ok] at h
    push Not at h
    refine ⟨h.1, ?_, by simp⟩
    rw [predecessorRef, Option.elim_none, ← h.2]
    exact (v.globalProvenance h.1).eq_genesisRef
  | some y =>
    obtain ⟨hscope, h⟩ := unit_bind_eq_ok.mp h
    obtain ⟨hlink, htime⟩ := unit_bind_eq_ok.mp h
    simp only [requireCheckpointScope, requireDecisionFollowsCheckpoint, refuseIf_eq_ok, not_or,
      not_not, not_lt] at hscope hlink htime
    refine ⟨hlink.1, hlink.2, fun z hz => ?_⟩
    obtain rfl := Option.mem_some_iff.mp hz
    exact ⟨hscope, htime⟩

/-- A first checkpoint of a mission names the mission genesis, and a later one its
predecessor. -/
theorem validateMissionAdvance_spec {v : HeadCheckpointV1} {d : IntegrityDecisionV1}
    {previous : Option AuthenticatedHeadCheckpointV1} {genesis : Digest}
    (hd : (v.eventSeq : ℤ) = d.priorEventSeq + 1)
    (hbranch : validateDecisionMissionPredecessor I v d previous = .ok ())
    (h : validateMissionAdvance v previous genesis = .ok ()) :
    v.eventSeq = succOf (·.eventSeq) previous ∧
      v.previousMissionCheckpoint = predecessorRef I genesis previous := by
  unfold validateMissionAdvance at h
  cases previous with
  | none =>
    rw [refuseIf_eq_ok] at h
    push Not at h
    refine ⟨h.1, ?_⟩
    rw [predecessorRef, Option.elim_none, ← h.2]
    exact (v.missionProvenance h.1).eq_genesisRef
  | some y =>
    obtain ⟨-, h⟩ := unit_bind_eq_ok.mp h
    rw [refuseIf_eq_ok] at h
    push Not at h
    have hpos : d.priorEventSeq ≠ -1 := by
      have := h.1
      omega
    unfold validateDecisionMissionPredecessor at hbranch
    rw [if_neg hpos] at hbranch
    obtain ⟨z, hz, hbranch⟩ := orRefuse_bind_eq_ok.mp hbranch
    obtain rfl := Option.some.inj hz
    obtain ⟨-, hbranch⟩ := unit_bind_eq_ok.mp hbranch
    rw [refuseIf_eq_ok] at hbranch
    push Not at hbranch
    exact ⟨h.1, hbranch.2.2.2.2.2⟩

/-- What an accepted checkpoint follows, as far as the checkpoint itself says. -/
structure CheckpointFollows (I : IntegrityPrimitives) (e : EventV1) (d : IntegrityDecisionV1)
    (v : HeadCheckpointV1) (global mission : Option AuthenticatedHeadCheckpointV1) : Prop where
  eventDigest : v.eventDigest = e.eventDigest
  missionId : v.missionId = e.missionId
  eventSeq : v.eventSeq = e.seq
  checkpointTime : d.timeUpperBound ≤ v.timeLowerBound
  instanceSequence : v.instanceSequence = succOf (·.instanceSequence) global
  previousCheckpoint : v.previousCheckpoint = predecessorRef I
    (I.headCheckpointGenesisId v.serviceInstanceId v.environmentId) global
  missionSequence : v.eventSeq = succOf (·.eventSeq) mission
  previousMissionCheckpoint : v.previousMissionCheckpoint = predecessorRef I
    (I.missionCheckpointGenesisId v.serviceInstanceId v.environmentId v.missionId) mission
  afterPrevious : ∀ y ∈ global, (v.serviceInstanceId = y.checkpoint.serviceInstanceId ∧
    v.environmentId = y.checkpoint.environmentId) ∧ y.checkpoint.timeUpperBound ≤ d.timeLowerBound

theorem validateCheckpointAdvance_spec
    {global mission : Option (AuthenticatedHeadCheckpointV1 × IntegrityTrustStore)}
    (hb : validateCheckpointBinding I x trust d decisionTrust e mission policy = .ok ())
    (h : validateCheckpointAdvance I x trust d decisionTrust global mission floor policy = .ok ()) :
    CheckpointFollows I e d.decision x.checkpoint (global.map Prod.fst)
      (mission.map Prod.fst) := by
  simp only [validateCheckpointBinding, unit_bind_eq_ok, refuseIf_eq_ok, not_or, not_not] at hb
  obtain ⟨-, -, -, hsem, hevent, -⟩ := hb
  obtain ⟨hmission, -, htime⟩ := validateCheckpointDecisionSemantics_spec hsem
  simp only [validateCheckpointAdvance, unit_bind_eq_ok] at h
  obtain ⟨-, -, -, -, -, -, -, hglobal, hbranch, hadvance, -⟩ := h
  obtain ⟨hseq, hprev, hafter⟩ := validateGlobalAdvance_spec hglobal
  have hd : (x.checkpoint.eventSeq : ℤ) = d.decision.priorEventSeq + 1 := by
    rw [hevent.1]
    exact hevent.2.2.2.2.2.2.2.1
  obtain ⟨hmseq, hmprev⟩ := validateMissionAdvance_spec hd hbranch hadvance
  exact ⟨hevent.2.1, hmission.trans hevent.2.2.2.1.symm, hevent.1, htime, hseq, hprev, hmseq,
    hmprev, hafter⟩

/-- The checkpoints of the predecessors that were authenticated. -/
theorem authenticatedPredecessor_checkpoint
    {y : Option (AuthenticatedIntegrityDecisionV1 × AuthenticatedHeadCheckpointV1 ×
      IntegrityTrustStore)} (h : authenticatedPredecessor I g = .ok y) :
    (y.map Prod.snd).map Prod.fst = g.bind fun l => (lineageCheckpoint I l).toOption := by
  rcases authenticatedPredecessor_spec h with ⟨rfl, rfl⟩ | ⟨l, z, rfl, rfl, hz, -⟩
  · rfl
  · rw [Option.bind_some, hz]
    rfl

/-- The authenticated checkpoint of an accepted finalization, and what it follows. -/
theorem validateFinalizedIntegrityTransition_spec
    (h : validateFinalizedIntegrityTransition I l e g m = .ok x) :
    ∃ f, l.finalization = some f ∧ lineageCheckpoint I l = .ok x ∧
      PendingBindsEvent l.pending e ∧
      CheckpointFollows I e l.pending.decision x.checkpoint
        (g.bind fun y => (lineageCheckpoint I y).toOption)
        (m.bind fun y => (lineageCheckpoint I y).toOption) ∧
      (∀ y, g = some y → RevocationAdvances y.pending.decision l.pending.decision) ∧
      globalFloorMatchesCheckpoint I f.externalHeadFloor x ∧
      missionFloorMatchesCheckpoint I f.externalHeadFloor x ∧
      f.externalHeadFloor.missionId = x.checkpoint.missionId := by
  unfold validateFinalizedIntegrityTransition at h
  split at h
  · rename_i a c f ha hc hf
    obtain ⟨z, hz, h⟩ := bind_eq_ok.mp h
    obtain ⟨hcur, h⟩ := unit_bind_eq_ok.mp h
    obtain rfl := Except.ok.inj h
    unfold authenticateCheckpointCandidate at hz
    obtain ⟨-, hz⟩ := unit_bind_eq_ok.mp hz
    obtain ⟨-, hz⟩ := unit_bind_eq_ok.mp hz
    obtain ⟨d, hd, hz⟩ := bind_eq_ok.mp hz
    obtain ⟨w, hw, hz⟩ := bind_eq_ok.mp hz
    obtain ⟨yg, hyg, hz⟩ := bind_eq_ok.mp hz
    obtain ⟨ym, hym, hz⟩ := bind_eq_ok.mp hz
    obtain ⟨hb, hz⟩ := unit_bind_eq_ok.mp hz
    obtain ⟨hadv, hz⟩ := unit_bind_eq_ok.mp hz
    obtain rfl := Except.ok.inj hz
    obtain ⟨hself, hbinds, hrev⟩ := authenticatePendingIntegrityTransition_spec hd
    have hfollows := validateCheckpointAdvance_spec hb hadv
    rw [authenticatedPredecessor_checkpoint hyg, authenticatedPredecessor_checkpoint hym,
      authenticatedDecisionSelf_decision hself] at hfollows
    simp only [requireExternalFloorIsCurrent, unit_bind_eq_ok, refuseIf_eq_ok, not_or,
      not_not] at hcur
    obtain ⟨-, -, hscope, hfloors⟩ := hcur
    exact ⟨f, hf, orRefuse_bind_eq_ok.mpr ⟨c, hc, bind_eq_ok.mpr ⟨d, hself, hw⟩⟩, hbinds,
      hfollows, hrev, hfloors.1, hfloors.2, hscope.2.2⟩
  · cases h

end Validation

/-! ## Chains -/

section Chains

variable {I} {h : List FinalizedTransition}

/-- Each transition follows those before it. -/
def Chained (I : IntegrityPrimitives) (h : List FinalizedTransition) : Prop :=
  ∀ pre x post, h = pre ++ x :: post →
    Follows I x pre.getLast? (lastOf (·.head.missionId) x.head.missionId pre)

/-- The order of everything that is finalized. -/
structure CheckpointChain (I : IntegrityPrimitives) (h : List FinalizedTransition) : Prop where
  /-- Every checkpoint is about its event. -/
  event : ∀ x ∈ h, x.head.eventDigest = x.event.eventDigest ∧
    x.head.missionId = x.event.missionId ∧ x.head.eventSeq = x.event.seq
  /-- The instance has one scope. -/
  scope : ∀ x ∈ h, ∀ y ∈ h, x.head.serviceInstanceId = y.head.serviceInstanceId ∧
    x.head.environmentId = y.head.environmentId
  /-- The checkpoints are one chain in instance order. -/
  global : ∀ pre x post, h = pre ++ x :: post →
    x.head.instanceSequence = pre.length ∧
      x.head.previousCheckpoint = predecessorRef I
        (I.headCheckpointGenesisId x.head.serviceInstanceId x.head.environmentId)
        (pre.getLast?.map FinalizedTransition.checkpoint)
  /-- Those of one mission are a chain in the order of its events. -/
  mission : ∀ pre x post, h = pre ++ x :: post →
    let before := pre.filter fun y => y.head.missionId = x.head.missionId
    x.head.eventSeq = before.length ∧
      x.head.previousMissionCheckpoint = predecessorRef I
        (I.missionCheckpointGenesisId x.head.serviceInstanceId x.head.environmentId
          x.head.missionId) (before.getLast?.map FinalizedTransition.checkpoint)
  /-- A transition's trusted intervals follow one another. -/
  interval : ∀ x ∈ h, x.decision.timeLowerBound ≤ x.decision.timeUpperBound ∧
    x.decision.timeUpperBound = x.event.decisionTime ∧
    x.event.decisionTime ≤ x.head.timeLowerBound ∧
    x.head.timeLowerBound ≤ x.head.timeUpperBound
  /-- A decision comes after the checkpoint before it. -/
  order : ∀ pre x y post, h = pre ++ x :: y :: post →
    x.head.timeUpperBound ≤ y.decision.timeLowerBound
  /-- Revocation state only advances. -/
  revocation : h.Pairwise fun x y => RevocationAdvances x.decision y.decision
  /-- A retained floor names its own checkpoint, in the instance and in the mission. -/
  floors : ∀ x ∈ h, globalFloorMatchesCheckpoint I x.floor x.checkpoint ∧
    missionFloorMatchesCheckpoint I x.floor x.checkpoint ∧ x.floor.missionId = x.head.missionId

theorem Chained.follows (hc : Chained I h) {x : FinalizedTransition} (hx : x ∈ h) :
    ∃ global mission, Follows I x global mission := by
  obtain ⟨pre, post, hsplit⟩ := List.append_of_mem hx
  exact ⟨_, _, hc pre x post hsplit⟩

/-- Consecutive transitions follow each other. -/
theorem Chained.next (hc : Chained I h) {pre post : List FinalizedTransition}
    {x y : FinalizedTransition} (hsplit : h = pre ++ x :: y :: post) :
    ∃ mission, Follows I y (some x) mission := by
  have hf := hc (pre ++ [x]) y post (by simp [hsplit])
  rw [List.getLast?_append_of_ne_nil _ (by simp), List.getLast?_singleton] at hf
  exact ⟨_, hf⟩

/-- What holds of any two consecutive transitions and is transitive holds of any two. -/
theorem Chained.pairwise (hc : Chained I h) {R : FinalizedTransition → FinalizedTransition → Prop}
    (htrans : ∀ x y z, R x y → R y z → R x z)
    (hnext : ∀ x y mission, Follows I y (some x) mission → R x y) : h.Pairwise R := by
  have : Trans R R R := ⟨fun hxy hyz => htrans _ _ _ hxy hyz⟩
  refine List.isChain_iff_pairwise.mp (List.isChain_iff_forall_rel_of_append_cons_cons.mpr ?_)
  intro x y pre post hsplit
  obtain ⟨mission, hf⟩ := hc.next hsplit
  exact hnext x y mission hf

theorem succOf_lastOf {key : FinalizedTransition → Digest} {index : HeadCheckpointV1 → ℕ}
    {k : Digest} {pre : List FinalizedTransition} :
    succOf index ((lastOf key k pre).map FinalizedTransition.checkpoint) =
      (lastOf key k pre).elim 0 fun y => index y.head + 1 := by
  cases lastOf key k pre <;> rfl

/-- The instance sequences count the checkpoints. -/
theorem Chained.instanceSequence_eq (hc : Chained I h) {pre post : List FinalizedTransition}
    {x : FinalizedTransition} (hsplit : h = pre ++ x :: post) :
    x.head.instanceSequence = pre.length := by
  have hnum : Numbered (fun _ => ()) (·.head.instanceSequence) h := by
    intro pre x post hsplit
    refine (hc pre x post hsplit).instanceSequence.trans ?_
    rw [lastOf, List.filter_eq_self.mpr (by simp)]
    cases pre.getLast? <;> rfl
  rw [hsplit] at hnum
  rw [hnum.idx_eq_length, List.filter_eq_self.mpr (by simp)]

/-- The event sequences of a mission count its checkpoints. -/
theorem Chained.eventSeq_eq (hc : Chained I h) {pre post : List FinalizedTransition}
    {x : FinalizedTransition} (hsplit : h = pre ++ x :: post) :
    x.head.eventSeq = (pre.filter fun y => y.head.missionId = x.head.missionId).length := by
  have hnum : Numbered (·.head.missionId) (·.head.eventSeq) h := by
    intro pre x post hsplit
    exact (hc pre x post hsplit).missionSequence.trans succOf_lastOf
  rw [hsplit] at hnum
  exact hnum.idx_eq_length

theorem Chained.checkpointChain (hc : Chained I h) : CheckpointChain I h where
  event x hx := by
    obtain ⟨g, m, hf⟩ := hc.follows hx
    exact ⟨hf.eventDigest, hf.missionId, hf.eventSeq⟩
  scope x hx y hy := by
    let SameScope (x y : FinalizedTransition) : Prop :=
      x.head.serviceInstanceId = y.head.serviceInstanceId ∧
        x.head.environmentId = y.head.environmentId
    have hsymm : Std.Symm SameScope := ⟨fun _ _ hxy => ⟨hxy.1.symm, hxy.2.symm⟩⟩
    have hscope : h.Pairwise SameScope := by
      refine hc.pairwise (fun x y z hxy hyz => ⟨hxy.1.trans hyz.1, hxy.2.trans hyz.2⟩) ?_
      exact fun x y m hf => hsymm.symm _ _ (hf.scope x rfl)
    exact hscope.forall_of_forall (fun _ _ => ⟨rfl, rfl⟩) hx hy
  global pre x post hsplit :=
    ⟨hc.instanceSequence_eq hsplit, (hc pre x post hsplit).previousCheckpoint⟩
  mission pre x post hsplit :=
    ⟨hc.eventSeq_eq hsplit, (hc pre x post hsplit).previousMissionCheckpoint⟩
  interval x hx := by
    obtain ⟨g, m, hf⟩ := hc.follows hx
    exact ⟨x.decision.interval, hf.decisionTime, hf.decisionTime ▸ hf.checkpointTime,
      x.head.interval⟩
  order pre x y post hsplit := by
    obtain ⟨m, hf⟩ := hc.next hsplit
    exact hf.afterPrevious x rfl
  revocation := hc.pairwise (fun _ _ _ => RevocationAdvances.trans) fun x y m hf =>
    hf.revocation x rfl
  floors x hx := by
    obtain ⟨g, m, hf⟩ := hc.follows hx
    exact ⟨hf.globalFloor, hf.missionFloor, hf.floorMission⟩

end Chains

/-! ## The chain of an accepted store -/

section Store

variable {E : Env}

/-- The finalized transition of a pending row. -/
def finalizedTransition (E : Env) (t : E.Db) (r : PendingRow) :
    Except StoreError FinalizedTransition := do
  let message := "the transition is not finalized"
  let l ← orRefuse (← loadIntegrityLineage E t r.eventDigest) (corruption message)
  let e ← eventForIntegrityDigest E t r.eventDigest
  let f ← orRefuse l.finalization (corruption message)
  let c ← (lineageCheckpoint E.integrity l).mapError replayRefusal
  return ⟨e, l.pending.decision, c, f.externalHeadFloor⟩

/-- The finalized pending rows, in instance order. -/
def Tables.finalizedOrder {V Q : Type} (t : Tables V Q) : List PendingRow :=
  t.instanceOrder.filter fun r => t.IsFinalized r.eventDigest

variable {t : E.Db} {p : ModeledProfile} {r : PendingRow} {x : FinalizedTransition}
  {pre post : List PendingRow}

/-- What a finalized row was read from. -/
structure FinalizedRow (t : E.Db) (r : PendingRow) (l : IntegrityLineageV1)
    (x : FinalizedTransition) : Prop where
  loaded : loadIntegrityLineage E t r.eventDigest = .ok (some l)
  read : finalizedTransition E t r = .ok x
  decision : x.decision = l.pending.decision
  checkpoint : lineageCheckpoint E.integrity l = .ok x.checkpoint
  missionId : x.head.missionId = r.missionId

/-- The rows before an open one are all finalized. -/
theorem Structured.finalizedOrder_prefix (hk : t.Keys) (hs : Structured t) :
    t.finalizedOrder <+: t.instanceOrder ∧ t.finalizedOrder.length = t.finalizations.length := by
  have hlen : t.instanceOrder.length = t.pending.length := length_orderBy
  rcases hs.order_cases hk with ⟨-, hcount, hall⟩ | ⟨init, r, horder, -, hcount, hinit, hopen⟩
  · have heq : t.finalizedOrder = t.instanceOrder :=
      List.filter_eq_self.mpr fun r hr => by simpa using hall r (mem_instanceOrder.mp hr)
    rw [heq, hlen, hcount]
    exact ⟨List.prefix_rfl, rfl⟩
  · have heq : t.finalizedOrder = init := by
      rw [Tables.finalizedOrder, horder, List.filter_append,
        List.filter_eq_self.mpr (by simpa using hinit)]
      simp [hopen]
    rw [heq]
    refine ⟨⟨[r], horder.symm⟩, ?_⟩
    rw [horder, List.length_append, List.length_singleton] at hlen
    omega

/-- The turn of the replay over a finalized row. -/
theorem ModeledAccepted.finalized_turn (hm : ModeledAccepted t p) (hk : t.Keys)
    (horder : t.instanceOrder = pre ++ r :: post) (hfin : t.IsFinalized r.eventDigest) :
    ∃ s e l x f, Passed t pre s ∧ loadIntegrityLineage E t r.eventDigest = .ok (some l) ∧
      eventForIntegrityDigest E t r.eventDigest = .ok e ∧ e.missionId = r.missionId ∧
      l.finalization = some f ∧ lineageCheckpoint E.integrity l = .ok x ∧
      PendingBindsEvent l.pending e ∧
      CheckpointFollows E.integrity e l.pending.decision x.checkpoint
        (s.global.bind fun y => (lineageCheckpoint E.integrity y).toOption)
        ((s.byMission.lookup r.missionId).bind fun y =>
          (lineageCheckpoint E.integrity y).toOption) ∧
      (∀ y, s.global = some y → RevocationAdvances y.pending.decision l.pending.decision) ∧
      globalFloorMatchesCheckpoint E.integrity f.externalHeadFloor x ∧
      missionFloorMatchesCheckpoint E.integrity f.externalHeadFloor x ∧
      f.externalHeadFloor.missionId = x.checkpoint.missionId := by
  obtain ⟨u, hu⟩ := hm.replayed
  obtain ⟨s, v, -, hpassed, hstep⟩ := replay_at hk hm.structured hu horder
  obtain ⟨l, e, hl, he, ha, -⟩ := replayStep_eq_ok.mp hstep
  obtain ⟨r', hlf⟩ := loadIntegrityLineage_some hl
  obtain rfl := hlf.row_eq hk (mem_instanceOrder.mp (by rw [horder]; simp))
  obtain ⟨x, hx⟩ := ha.finalization (hlf.finalization_ne_none.mpr hfin)
  have hmission := (ha.coordinates hlf).1
  rw [hmission] at hx
  obtain ⟨f, hf, hc, hbinds, hfollows, hrev, hg, hmf, hfm⟩ :=
    validateFinalizedIntegrityTransition_spec hx
  exact ⟨s, e, l, x, f, hpassed, hl, he, hmission, hf, hc, hbinds, hfollows, hrev, hg, hmf, hfm⟩

/-- Every finalized row reads as a finalized transition. -/
theorem ModeledAccepted.finalizedRow (hm : ModeledAccepted t p) (hk : t.Keys)
    (horder : t.instanceOrder = pre ++ r :: post) (hfin : t.IsFinalized r.eventDigest) :
    ∃ l x, FinalizedRow t r l x := by
  obtain ⟨s, e, l, x, f, -, hl, he, hmission, hf, hc, -, hfollows, -⟩ :=
    hm.finalized_turn hk horder hfin
  refine ⟨l, ⟨e, l.pending.decision, x, f.externalHeadFloor⟩, hl, ?_, rfl, hc, ?_⟩
  · refine bind_eq_ok.mpr ⟨some l, hl, orRefuse_bind_eq_ok.mpr ⟨l, rfl, bind_eq_ok.mpr
      ⟨e, he, orRefuse_bind_eq_ok.mpr ⟨f, hf, bind_eq_ok.mpr ⟨x, mapError_eq_ok.mpr hc, rfl⟩⟩⟩⟩⟩
  · exact hfollows.missionId.trans hmission

/-- The finalized transition of a row, if it has one. -/
def entryOf (t : E.Db) (r : PendingRow) : Option FinalizedTransition :=
  (finalizedTransition E t r).toOption

theorem FinalizedRow.entryOf_eq {l : IntegrityLineageV1} (h : FinalizedRow t r l x) :
    entryOf t r = some x := by
  rw [entryOf, h.read]
  rfl

/-- The lineage of a predecessor row and its finalized transition have one checkpoint and
one decision. -/
theorem entryOf_predecessor {o : Option PendingRow}
    (ho : ∀ q, o = some q → ∃ l x, FinalizedRow t q l x) :
    (o.bind (entryOf t)).map FinalizedTransition.checkpoint =
        (o.bind (lineageOf t)).bind (fun y => (lineageCheckpoint E.integrity y).toOption) ∧
      ∀ z ∈ o.bind (entryOf t), ∃ l, o.bind (lineageOf t) = some l ∧
        z.decision = l.pending.decision := by
  cases o with
  | none => exact ⟨rfl, by simp⟩
  | some q =>
    obtain ⟨l, x, hq⟩ := ho q rfl
    simp only [Option.bind_some, hq.entryOf_eq, lineageOf_eq hq.loaded, hq.checkpoint]
    refine ⟨rfl, fun z hz => ?_⟩
    obtain rfl := Option.mem_some_iff.mp hz
    exact ⟨l, rfl, hq.decision⟩

/-- A finalized row follows the rows before it. -/
theorem ModeledAccepted.follows (hm : ModeledAccepted t p) (hk : t.Keys)
    (horder : t.instanceOrder = pre ++ r :: post) (hfin : t.IsFinalized r.eventDigest)
    (hx : finalizedTransition E t r = .ok x) :
    Follows E.integrity x (pre.getLast?.bind (entryOf t))
      ((lastOf PendingRow.missionId r.missionId pre).bind (entryOf t)) := by
  obtain ⟨s, e, l, c, f, hpassed, hl, he, hmission, hf, hc, hbinds, hfollows, hrev, hg, hmf, hfm⟩ :=
    hm.finalized_turn hk horder hfin
  have hxeq : x = ⟨e, l.pending.decision, c, f.externalHeadFloor⟩ := by
    unfold finalizedTransition at hx
    obtain ⟨o, ho, hx⟩ := bind_eq_ok.mp hx
    obtain rfl := Except.ok.inj (ho.symm.trans hl)
    obtain ⟨l', hl', hx⟩ := orRefuse_bind_eq_ok.mp hx
    obtain rfl := Option.some.inj hl'
    obtain ⟨e', he', hx⟩ := bind_eq_ok.mp hx
    obtain rfl := Except.ok.inj (he'.symm.trans he)
    obtain ⟨f', hf', hx⟩ := orRefuse_bind_eq_ok.mp hx
    obtain rfl := Option.some.inj (hf'.symm.trans hf)
    obtain ⟨c', hc', hx⟩ := bind_eq_ok.mp hx
    obtain rfl := Except.ok.inj ((mapError_eq_ok.mp hc').symm.trans hc)
    exact (Except.ok.inj hx).symm
  have hrows : ∀ q ∈ pre, ∃ l x, FinalizedRow t q l x := by
    intro q hq
    obtain ⟨pre₁, post₁, rfl⟩ := List.append_of_mem hq
    have horder₁ : t.instanceOrder = pre₁ ++ q :: (post₁ ++ r :: post) := by simp [horder]
    exact hm.finalizedRow hk horder₁ (hm.structured.isFinalized_of_before hk horder hq)
  obtain ⟨hglobal, hdec⟩ := entryOf_predecessor (o := pre.getLast?) fun q hq =>
    hrows q (List.mem_of_getLast? hq)
  obtain ⟨hlocal, -⟩ := entryOf_predecessor (o := lastOf PendingRow.missionId r.missionId pre)
    fun q hq => hrows q (mem_of_lastOf hq).1
  rw [← hpassed.global] at hglobal hdec
  rw [← hpassed.mission] at hlocal
  rw [← hglobal, ← hlocal] at hfollows
  have hafter : ∀ y ∈ pre.getLast?.bind (entryOf t),
      (c.checkpoint.serviceInstanceId = y.head.serviceInstanceId ∧
        c.checkpoint.environmentId = y.head.environmentId) ∧
        y.head.timeUpperBound ≤ l.pending.decision.timeLowerBound :=
    fun y hy => hfollows.afterPrevious y.checkpoint (Option.mem_map_of_mem _ hy)
  rw [hxeq]
  exact {
    eventDigest := hfollows.eventDigest
    missionId := hfollows.missionId
    eventSeq := hfollows.eventSeq
    instanceSequence := hfollows.instanceSequence
    missionSequence := hfollows.missionSequence
    previousCheckpoint := hfollows.previousCheckpoint
    previousMissionCheckpoint := hfollows.previousMissionCheckpoint
    scope := fun y hy => (hafter y hy).1
    decisionTime := hbinds.timeUpperBound
    checkpointTime := hfollows.checkpointTime
    afterPrevious := fun y hy => (hafter y hy).2
    revocation := fun y hy => by
      obtain ⟨ly, hly, hyd⟩ := hdec y hy
      rw [hyd]
      exact hrev ly hly
    globalFloor := hg
    missionFloor := hmf
    floorMission := hfm }

end Store

section Read

variable {E : Env} {t : E.Db} {rows : List PendingRow} {h : List FinalizedTransition}

/-- The last transition read is the one of the last row. -/
theorem getLast?_of_read (hread : rows.map (finalizedTransition E t) = h.map .ok) :
    h.getLast? = rows.getLast?.bind (entryOf t) := by
  have hlast := congrArg List.getLast? hread
  rw [List.getLast?_map, List.getLast?_map] at hlast
  cases hr : rows.getLast? with
  | none =>
    rw [hr, Option.map_none, eq_comm, Option.map_eq_none_iff] at hlast
    rw [hlast]
    rfl
  | some r =>
    rw [hr, Option.map_some, eq_comm, Option.map_eq_some_iff] at hlast
    obtain ⟨x, hx, hrx⟩ := hlast
    rw [hx, Option.bind_some, entryOf, ← hrx]
    rfl

/-- The transitions of a mission are those of its rows. -/
theorem filter_of_read (hread : rows.map (finalizedTransition E t) = h.map .ok)
    (hmission : ∀ r ∈ rows, ∀ x, finalizedTransition E t r = .ok x →
      x.head.missionId = r.missionId) (k : Digest) :
    (rows.filter fun r => r.missionId = k).map (finalizedTransition E t) =
      (h.filter fun x => x.head.missionId = k).map .ok := by
  induction rows generalizing h with
  | nil =>
    obtain rfl : h = [] := by simpa using hread.symm
    rfl
  | cons r rows ih =>
    obtain ⟨x, h, rfl, hx, hread⟩ := List.map_eq_cons_iff.mp hread.symm
    have hk := hmission r List.mem_cons_self x hx.symm
    have hih := ih hread.symm fun q hq => hmission q (List.mem_cons_of_mem r hq)
    by_cases hr : r.missionId = k
    · rw [List.filter_cons_of_pos (by simpa using hr),
        List.filter_cons_of_pos (by simpa [hk] using hr), List.map_cons, List.map_cons, hih, hx]
    · rw [List.filter_cons_of_neg (by simpa using hr),
        List.filter_cons_of_neg (by simpa [hk] using hr), hih]

theorem ModeledAccepted.chained {p : ModeledProfile} (hm : ModeledAccepted t p) (hk : t.Keys)
    (hread : t.finalizedOrder.map (finalizedTransition E t) = h.map .ok) :
    Chained E.integrity h := by
  intro pre' x post' hsplit
  rw [hsplit, List.map_append, List.map_cons] at hread
  obtain ⟨pre, rest, hrows, hpre, hrest⟩ := List.map_eq_append_iff.mp hread
  obtain ⟨r, post, rfl, hx, -⟩ := List.map_eq_cons_iff.mp hrest
  obtain ⟨tail, htail⟩ := (hm.structured.finalizedOrder_prefix hk).1
  have hfin : ∀ q ∈ t.finalizedOrder, t.IsFinalized q.eventDigest := fun q hq => by
    simpa using (List.mem_filter.mp hq).2
  have horder : t.instanceOrder = pre ++ r :: (post ++ tail) := by
    rw [← htail, hrows]
    simp
  have hmission : ∀ q ∈ pre ++ [r], ∀ y, finalizedTransition E t q = .ok y →
      y.head.missionId = q.missionId := by
    intro q hq y hy
    obtain ⟨pre₁, post₁, hsplit⟩ := List.append_of_mem hq
    have horder₁ : t.instanceOrder = pre₁ ++ q :: (post₁ ++ (post ++ tail)) := by
      rw [horder, ← List.singleton_append, ← List.append_assoc, hsplit]
      simp
    have hmem : q ∈ t.finalizedOrder := by
      rw [hrows]
      rcases List.mem_append.mp hq with hq | hq
      · exact List.mem_append_left _ hq
      · rw [List.mem_singleton.mp hq]
        simp
    obtain ⟨l, z, hz⟩ := hm.finalizedRow hk horder₁ (hfin q hmem)
    obtain rfl := Except.ok.inj (hz.read.symm.trans hy)
    exact hz.missionId
  have hf := hm.follows hk horder (hfin r (by rw [hrows]; simp)) hx
  rw [← getLast?_of_read hpre] at hf
  have hkey : x.head.missionId = r.missionId := hmission r (by simp) x hx
  have hlast : lastOf (·.head.missionId) x.head.missionId pre' =
      (lastOf PendingRow.missionId r.missionId pre).bind (entryOf t) := by
    rw [hkey]
    exact getLast?_of_read (filter_of_read hpre
      (fun q hq => hmission q (List.mem_append_left _ hq)) r.missionId)
  rw [hlast]
  exact hf

end Read

/-- In an accepted store everything that is finalized reads back as one chain. -/
theorem checkpoint_chain {E : Env} {t : E.Db} (hk : t.Keys)
    (hacc : validateIntegrityStateUncached E t = .ok ()) :
    ∃ h : List FinalizedTransition,
      t.finalizedOrder.map (finalizedTransition E t) = h.map .ok ∧
      h.length = t.finalizations.length ∧ CheckpointChain E.integrity h := by
  cases hp : t.profile with
  | legacy =>
    have hleg := (accepted_legacy hp).mp hacc
    refine ⟨[], ?_, by simp [hleg.finalizations], Chained.checkpointChain fun _ _ _ hnil => ?_⟩
    · rw [Tables.finalizedOrder, Tables.instanceOrder, hleg.pending]
      rfl
    · simp at hnil
  | modeled p =>
    have hm := (accepted_modeled hk hp).mp hacc
    obtain ⟨⟨tail, htail⟩, hlen⟩ := hm.structured.finalizedOrder_prefix hk
    obtain ⟨h, hread⟩ := exists_map_ok (f := finalizedTransition E t) (l := t.finalizedOrder)
      fun r hr => by
        obtain ⟨pre, post, hsplit⟩ := List.append_of_mem hr
        have horder : t.instanceOrder = pre ++ r :: (post ++ tail) := by
          rw [← htail, hsplit]
          simp
        obtain ⟨l, x, hx⟩ := hm.finalizedRow hk horder (by simpa using (List.mem_filter.mp hr).2)
        exact ⟨x, hx.read⟩
    refine ⟨h, hread, ?_, (hm.chained hk hread).checkpointChain⟩
    rw [← hlen, ← List.length_map (f := finalizedTransition E t), hread, List.length_map]

/-- The second event is finalized too. -/
def sampleSettled : Sys sampleEnv :=
  let s := (samplePended.perform 0
    (.retainIntegrityAnchorStatement (sampleAnchor 1 sampleSecond) ())).2
  let s := (s.perform 1 (.retainIntegrityCheckpointCandidate
    (sampleCheckpointCandidate 1 sampleSecond) ())).2
  (s.perform 0 (.finalizeIntegrityTransition (sampleFinalization 1 sampleSecond) ())).2

theorem sampleSettled_reachable : sampleSettled.Reachable :=
  ((samplePended_reachable.perform _ _).perform _ _).perform _ _

/-- Two finalized transitions, the second of which follows the first. -/
theorem checkpoint_chain_sample : ∃ h : List FinalizedTransition,
    sampleSettled.tables.finalizedOrder.map
      (finalizedTransition sampleEnv sampleSettled.tables) = h.map .ok ∧
    h.length = sampleSettled.tables.finalizations.length ∧
    sampleSettled.tables.finalizations.length = 2 ∧ CheckpointChain sampleEnv.integrity h := by
  obtain ⟨h, hread, hlength, hchain⟩ :=
    checkpoint_chain sampleSettled_reachable.cacheSound.keys (by decide +kernel)
  exact ⟨h, hread, hlength, by decide +kernel, hchain⟩

end Etzio
