import Etzio.HeadBundles

/-!
# Claims of the log's sources

The records in which a catalog and its monitors write their claims. `validateCatalogClaim_toBody`
and `validateMonitorClaim_toBody` read a well-formed claim back from its record, whatever the
request, and `toBody_small` bounds the record of a claim whose proofs have at most one node.
-/

open CheckedRun JsonText

namespace Etzio

variable {E : AdapterEnv}

/-! ## Values of a record -/

/-- The values of a claim that a source writes are read back. -/
theorem validatedProof_texts {ds : List Digest} (h : ds.length ≤ maxHeadProofNodesV1)
    (name : String) :
    validatedProof (.arr (ds.map fun d => .str (contentIdText d))) name = .ok ds := by
  rw [validatedProof]
  simp only [items?, orRefuse_some_bind, List.length_map]
  rw [refuseIf_bind_of_not (Nat.not_lt.mpr h), mapM_eq_ok, List.forall₂_map_left_iff,
    List.forall₂_same]
  intro d _
  rw [requireHeadDigest, requireText_bind (isContentId_contentIdText d), digestOf_contentIdText]
  rfl

theorem requireHeadSequence_int {n : ℤ} (h : IsHeadSequence n) (name : String) :
    requireHeadSequence (.int n) name = .ok n := by
  rw [requireHeadSequence]
  simp only [int?, orRefuse_some_bind]
  rw [refuseIf_bind_of_not (not_not.mpr h)]
  rfl

theorem requireTreeSize_int {n : ℕ} (h : 1 ≤ n ∧ n ≤ maxHeadTreeSizeV1) (name : String) :
    requireTreeSize (.int n) name = .ok n := by
  rw [requireTreeSize]
  simp only [requireNat, int?, orRefuse_some_bind]
  rw [refuseIf_bind_of_not (by omega)]
  exact unit_bind_eq_ok.mpr ⟨refuseIf_eq_ok.mpr (by omega), rfl⟩

theorem optionalText_id (id : Option Digest) (name : String) :
    optionalText (optionalId id) name requireHeadDigest = .ok (id.map contentIdText) := by
  cases id with
  | none => rfl
  | some id => exact bind_of_ok (requireText_eq_ok.mpr ⟨rfl, isContentId_contentIdText id⟩)

theorem optionalText_identity {text : Option String}
    (h : ∀ value ∈ text, isAdapterIdentity value = true) (name : String) :
    optionalText (text.elim .null .str) name requireHeadIdentity = .ok text := by
  cases text with
  | none => rfl
  | some value => exact bind_of_ok (requireText_eq_ok.mpr ⟨rfl, h value rfl⟩)

theorem requireHeadEpoch_int {n : ℕ} (h : n ≤ maxAdapterEpoch) (name : String) :
    requireHeadEpoch (.int n) name = .ok n := by
  rw [requireHeadEpoch]
  simp only [requireNat, int?, orRefuse_some_bind]
  rw [refuseIf_bind_of_not (by omega)]
  rfl

theorem admitted_optionalId {nfc : String → Bool} {depth : ℕ} (hdepth : depth ≤ maxNestingDepth)
    (id : Option Digest) : Admitted nfc depth (optionalId id) := by
  cases id with
  | none => exact .null hdepth
  | some id => exact admitted_contentIdText hdepth id

theorem admitted_optionalIdentity {nfc : String → Bool} {depth : ℕ}
    (hdepth : depth ≤ maxNestingDepth) {text : Option String}
    (h : ∀ value ∈ text, isAdapterIdentity value = true) :
    Admitted nfc depth (text.elim .null .str) := by
  cases text with
  | none => exact .null hdepth
  | some value => exact admitted_identity hdepth (h value rfl)

theorem admitted_headSequence {nfc : String → Bool} {depth : ℕ} (hdepth : depth ≤ maxNestingDepth)
    {n : ℤ} (h : IsHeadSequence n) : Admitted nfc depth (.int n) :=
  .int hdepth (le_trans (by decide) h.1) h.2

theorem weight_digest (d : Digest) : weight (.str (contentIdText d)) ≤ 800 := by
  rw [weight, length_contentIdText]
  decide

theorem weight_identity {text : String} (h : isAdapterIdentity text = true) :
    weight (.str text) ≤ 800 := by
  have := (isAdapterIdentity_ascii h).2
  rw [weight]
  omega

theorem weight_headSequence {n : ℤ} (h : IsHeadSequence n) : weight (.int n) ≤ 19 := by
  by_cases hneg : n < 0
  · obtain rfl : n = -1 := le_antisymm (by omega) h.1
    decide +kernel
  · lift n to ℕ using not_lt.mp hneg
    exact weight_epoch (Int.ofNat_le.mp h.2)

/-- The wire value of a proof. -/
def proofTexts (proof : List Digest) : Json := .arr (proof.map fun d => .str (contentIdText d))

theorem admitted_proofTexts {nfc : String → Bool} {depth : ℕ} (hdepth : depth < maxNestingDepth)
    {proof : List Digest} (h : proof.length ≤ maxHeadProofNodesV1) :
    Admitted nfc depth (proofTexts proof) := by
  refine .arr hdepth.le ?_ fun value hvalue => ?_
  · rw [List.length_map]
    exact h.trans (by decide)
  · obtain ⟨d, -, rfl⟩ := List.mem_map.mp hvalue
    exact admitted_contentIdText hdepth d

/-- A proof of one node is a small value. -/
theorem proofTexts_small {proof : List Digest} (h : proof.length ≤ 1) :
    nodes (proofTexts proof) ≤ 2 ∧ weight (proofTexts proof) ≤ 800 := by
  match proof with
  | [] => decide
  | [d] =>
    simp only [proofTexts, List.map_cons, List.map_nil, nodes, nodesItems, weight, weightItems,
      length_contentIdText]
    decide

/-! ## The catalog -/

/-- The record of a catalog's claim, in the canonical order of its keys. -/
def HeadCatalogClaim.toBody (missionId : Digest) (claim : HeadCatalogClaim) :
    List (String × Json) :=
  [("checkpoint_attestation_id", optionalId claim.checkpoint.attestationId),
    ("checkpoint_id", .str (contentIdText claim.checkpoint.checkpointId)),
    ("checkpoint_principal_id", claim.checkpoint.principalId.elim .null .str),
    ("checkpoint_trust_snapshot_id", optionalId claim.checkpoint.trustSnapshotId),
    ("consistency_proof", proofTexts claim.consistencyProof),
    ("instance_sequence", .int claim.instanceSequence), ("log_origin", .str claim.logOrigin),
    ("log_root_hash", .str (contentIdText claim.logRootHash)),
    ("mission_checkpoint_attestation_id", optionalId claim.missionCheckpoint.attestationId),
    ("mission_checkpoint_id", .str (contentIdText claim.missionCheckpoint.checkpointId)),
    ("mission_checkpoint_principal_id", claim.missionCheckpoint.principalId.elim .null .str),
    ("mission_checkpoint_trust_snapshot_id", optionalId claim.missionCheckpoint.trustSnapshotId),
    ("mission_event_seq", .int claim.missionEventSeq),
    ("mission_id", .str (contentIdText missionId)),
    ("projection_inclusion_proof", proofTexts claim.projectionInclusionProof),
    ("published_at", .int claim.publishedAt), ("tree_size", .int claim.treeSize)]

/-- What the reading of a catalog's claim checks. -/
structure HeadCatalogClaim.WellFormed (claim : HeadCatalogClaim) : Prop where
  sized : 1 ≤ claim.treeSize ∧ claim.treeSize ≤ maxHeadTreeSizeV1
  published : claim.publishedAt ≤ maxAdapterEpoch
  consistency : claim.consistencyProof.length ≤ maxHeadProofNodesV1
  inclusion : claim.projectionInclusionProof.length ≤ maxHeadProofNodesV1
  sequence : IsHeadSequence claim.instanceSequence
  missionSequence : IsHeadSequence claim.missionEventSeq
  principal : ∀ value ∈ claim.checkpoint.principalId, isAdapterIdentity value = true
  missionPrincipal : ∀ value ∈ claim.missionCheckpoint.principalId, isAdapterIdentity value = true

theorem map_digestOf_contentIdText (id : Option Digest) :
    (id.map contentIdText).map digestOf = id := by
  cases id with
  | none => rfl
  | some id => exact congrArg some (digestOf_contentIdText id)

/-- A well-formed claim is read back from its record. -/
theorem validateCatalogClaim_toBody (request : HeadCatalogRequestV1 E)
    {binding : HeadAuthoritySourceBindingV1} {claim : HeadCatalogClaim} (h : claim.WellFormed)
    (horigin : claim.logOrigin = binding.logOrigin) :
    validateCatalogClaim request binding (claim.toBody request.missionId) = .ok claim := by
  have hfields : (claim.toBody request.missionId).map Prod.fst = catalogClaimFields := by rfl
  have hlookup : (claim.toBody request.missionId).lookup "log_origin" =
      some (.str binding.logOrigin) :=
    congrArg (fun origin => some (Json.str origin)) horigin
  have hmission : ¬contentIdText request.missionId ≠ contentIdText request.missionId :=
    not_not.mpr rfl
  have hdigest (d : Digest) (name : String) :
      requireHeadDigest (.str (contentIdText d)) name = .ok (contentIdText d) :=
    requireText_eq_ok.mpr ⟨rfl, isContentId_contentIdText d⟩
  rw [validateCatalogClaim, requireExactDict_bind hfields,
    bind_of_ok (requireLogOrigin_eq_ok hlookup)]
  simp only [HeadCatalogClaim.toBody, field, List.lookup, String.reduceBEq, orRefuse_some_bind,
    proofTexts]
  rw [bind_of_ok (hdigest _ _), bind_of_ok (requireTreeSize_int h.sized _),
    bind_of_ok (requireHeadEpoch_int h.published _),
    bind_of_ok (validatedProof_texts h.consistency _),
    bind_of_ok (validatedProof_texts h.inclusion _), bind_of_ok (hdigest _ _),
    refuseIf_bind_of_not hmission, bind_of_ok (requireHeadSequence_int h.sequence _),
    bind_of_ok (requireHeadSequence_int h.missionSequence _), bind_of_ok (hdigest _ _),
    bind_of_ok (hdigest _ _), bind_of_ok (optionalText_id _ _), bind_of_ok (optionalText_id _ _),
    bind_of_ok (optionalText_id _ _), bind_of_ok (optionalText_id _ _),
    bind_of_ok (optionalText_identity h.principal _),
    bind_of_ok (optionalText_identity h.missionPrincipal _)]
  simp only [digestOf_contentIdText, map_digestOf_contentIdText, ← horigin]
  rfl

/-- A well-formed claim with proofs of one node is a small record. -/
theorem HeadCatalogClaim.toBody_small {nfc : String → Bool} {claim : HeadCatalogClaim}
    (h : claim.WellFormed) (horigin : isAdapterIdentity claim.logOrigin = true)
    (hconsistency : claim.consistencyProof.length ≤ 1)
    (hinclusion : claim.projectionInclusionProof.length ≤ 1) (missionId : Digest) :
    Admitted nfc 1 (.obj (claim.toBody missionId)) ∧
      nodes (.obj (claim.toBody missionId)) ≤ 1000 ∧
      weight (.obj (claim.toBody missionId)) ≤ 20000 := by
  have hsize : claim.treeSize ≤ maxAdapterEpoch := h.sized.2.trans (by decide)
  refine ⟨admitted_record (by decide +kernel : PlainFields catalogClaimFields) rfl (by decide) ?_,
    ?_, ?_⟩
  · simp only [HeadCatalogClaim.toBody, List.forall_mem_cons, List.not_mem_nil, false_imp_iff,
      implies_true, and_true]
    have hid (d : Digest) : Admitted nfc 2 (.str (contentIdText d)) :=
      admitted_contentIdText (by decide) d
    have hoptional (id : Option Digest) : Admitted nfc 2 (optionalId id) :=
      admitted_optionalId (by decide) id
    exact ⟨hoptional _, hid _, admitted_optionalIdentity (by decide) h.principal, hoptional _,
      admitted_proofTexts (by decide) h.consistency, admitted_headSequence (by decide) h.sequence,
      admitted_identity (by decide) horigin, hid _, hoptional _, hid _,
      admitted_optionalIdentity (by decide) h.missionPrincipal, hoptional _,
      admitted_headSequence (by decide) h.missionSequence, hid _,
      admitted_proofTexts (by decide) h.inclusion, admitted_epoch (by decide) h.published,
      admitted_epoch (by decide) hsize⟩
  · have hoptional (id : Option Digest) : nodes (optionalId id) = 1 := by cases id <;> rfl
    have hprincipal (text : Option String) : nodes (text.elim .null .str) = 1 := by
      cases text <;> rfl
    have hproofs := Nat.add_le_add (proofTexts_small hconsistency).1
      (proofTexts_small hinclusion).1
    simp only [HeadCatalogClaim.toBody, nodes, nodesMembers, hoptional, hprincipal]
    linarith only [hproofs]
  · have hkeys : ∀ key ∈ (claim.toBody missionId).map Prod.fst, key.length ≤ 40 :=
      (by decide : ∀ key ∈ catalogClaimFields, key.length ≤ 40)
    have hcount : (claim.toBody missionId).length * (6 * 40 + 800 + 4) + 2 ≤ 20000 :=
      (by decide : catalogClaimFields.length * (6 * 40 + 800 + 4) + 2 ≤ 20000)
    refine (weight_record hkeys ?_).trans hcount
    have hoptional (id : Option Digest) : weight (optionalId id) ≤ 800 := by
      cases id with
      | none => decide
      | some id => exact weight_digest id
    have hprincipal {text : Option String}
        (ht : ∀ value ∈ text, isAdapterIdentity value = true) :
        weight (text.elim .null .str) ≤ 800 := by
      cases text with
      | none => decide
      | some value => exact weight_identity (ht value rfl)
    have hsequence {n : ℤ} (hn : IsHeadSequence n) : weight (.int n) ≤ 800 :=
      (weight_headSequence hn).trans (by decide)
    have hepoch {n : ℕ} (hn : n ≤ maxAdapterEpoch) : weight (.int n) ≤ 800 :=
      (weight_epoch hn).trans (by decide)
    simp only [HeadCatalogClaim.toBody, List.forall_mem_cons, List.not_mem_nil, false_imp_iff,
      implies_true, and_true]
    exact ⟨hoptional _, weight_digest _, hprincipal h.principal, hoptional _,
      (proofTexts_small hconsistency).2,
      hsequence h.sequence, weight_identity horigin, weight_digest _, hoptional _, weight_digest _,
      hprincipal h.missionPrincipal, hoptional _, hsequence h.missionSequence, weight_digest _,
      (proofTexts_small hinclusion).2, hepoch h.published, hepoch hsize⟩

/-! ## The monitors -/

/-- The record of a monitor's claim, in the canonical order of its keys. -/
def HeadMonitorClaim.toBody (claim : HeadMonitorClaim) : List (String × Json) :=
  [("log_origin", .str claim.logOrigin), ("log_root_hash", .str (contentIdText claim.logRootHash)),
    ("observed_at", .int claim.observedAt), ("tree_size", .int claim.treeSize),
    ("witnessed_source_id", .str claim.witnessedSourceId)]

/-- A well-formed claim of a monitor is read back from its record. -/
theorem validateMonitorClaim_toBody {binding : HeadAuthoritySourceBindingV1}
    {claim : HeadMonitorClaim} (hsized : 1 ≤ claim.treeSize ∧ claim.treeSize ≤ maxHeadTreeSizeV1)
    (hobserved : claim.observedAt ≤ maxAdapterEpoch)
    (hwitnessed : isAdapterIdentity claim.witnessedSourceId = true)
    (horigin : claim.logOrigin = binding.logOrigin) :
    validateMonitorClaim binding claim.toBody = .ok claim := by
  have hfields : claim.toBody.map Prod.fst = monitorClaimFields := by rfl
  have hlookup : claim.toBody.lookup "log_origin" = some (.str binding.logOrigin) :=
    congrArg (fun origin => some (Json.str origin)) horigin
  have hdigest : requireHeadDigest (.str (contentIdText claim.logRootHash)) "log_root_hash" =
      .ok (contentIdText claim.logRootHash) :=
    requireText_eq_ok.mpr ⟨rfl, isContentId_contentIdText _⟩
  have hsource : requireHeadIdentity (.str claim.witnessedSourceId) "witnessed_source_id" =
      .ok claim.witnessedSourceId :=
    requireText_eq_ok.mpr ⟨rfl, hwitnessed⟩
  rw [validateMonitorClaim, requireExactDict_bind hfields,
    bind_of_ok (requireLogOrigin_eq_ok hlookup)]
  simp only [HeadMonitorClaim.toBody, field, List.lookup, String.reduceBEq, orRefuse_some_bind]
  rw [bind_of_ok hdigest, bind_of_ok (requireTreeSize_int hsized _),
    bind_of_ok (requireHeadEpoch_int hobserved _), bind_of_ok hsource, digestOf_contentIdText,
    ← horigin]
  rfl

/-- The claim of a monitor is a small record. -/
theorem HeadMonitorClaim.toBody_small {nfc : String → Bool} {claim : HeadMonitorClaim}
    (hsized : claim.treeSize ≤ maxHeadTreeSizeV1) (hobserved : claim.observedAt ≤ maxAdapterEpoch)
    (hwitnessed : isAdapterIdentity claim.witnessedSourceId = true)
    (horigin : isAdapterIdentity claim.logOrigin = true) :
    Admitted nfc 1 (.obj claim.toBody) ∧ nodes (.obj claim.toBody) ≤ 1000 ∧
      weight (.obj claim.toBody) ≤ 20000 := by
  have hsize : claim.treeSize ≤ maxAdapterEpoch := hsized.trans (by decide)
  refine ⟨admitted_record (by decide +kernel : PlainFields monitorClaimFields) rfl (by decide) ?_,
    ?_, ?_⟩
  · simp only [HeadMonitorClaim.toBody, List.forall_mem_cons, List.not_mem_nil, false_imp_iff,
      implies_true, and_true]
    exact ⟨admitted_identity (by decide) horigin, admitted_contentIdText (by decide) _,
      admitted_epoch (by decide) hobserved, admitted_epoch (by decide) hsize,
      admitted_identity (by decide) hwitnessed⟩
  · simp only [HeadMonitorClaim.toBody, nodes, nodesMembers]
    decide
  · have hkeys : ∀ key ∈ claim.toBody.map Prod.fst, key.length ≤ 40 :=
      (by decide : ∀ key ∈ monitorClaimFields, key.length ≤ 40)
    have hcount : claim.toBody.length * (6 * 40 + 800 + 4) + 2 ≤ 20000 :=
      (by decide : monitorClaimFields.length * (6 * 40 + 800 + 4) + 2 ≤ 20000)
    refine (weight_record hkeys ?_).trans hcount
    simp only [HeadMonitorClaim.toBody, List.forall_mem_cons, List.not_mem_nil, false_imp_iff,
      implies_true, and_true]
    exact ⟨weight_identity horigin, weight_digest _, (weight_epoch hobserved).trans (by decide),
      (weight_epoch hsize).trans (by decide), weight_identity hwitnessed⟩

end Etzio
