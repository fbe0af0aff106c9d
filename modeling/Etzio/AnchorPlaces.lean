import Etzio.CatalogHistories

/-!
# Places of the anchors' logs

An anchor registers a transition as a leaf of its own log. `anchor_place` is the law of the places
of these logs : two anchor bundles that qualified with a package at the same place of a log with the
same root registered the same statement of the same mission, or their checks exhibit two byte
strings with one SHA-256 digest.
-/

open CheckedRun JsonText MerkleTrees

namespace Etzio

variable {E : AdapterEnv}

/-! ## Registrations -/

/-- The registration that an anchor is asked for. -/
def HeadAnchorRequestV1.registration (request : HeadAnchorRequestV1 E) : AnchorRegistrationLeafV1 :=
  ⟨request.serviceInstanceId, request.environmentId, request.missionId, request.instanceSequence,
    request.anchorPolicyId, request.anchorStatementId⟩

variable (E) in
/-- `AnchorRegistrationLeafV1.to_canonical_bytes`. -/
def AnchorRegistrationLeafV1.bytes (leaf : AnchorRegistrationLeafV1) :
    Except AdapterError ByteArray :=
  canonicalRecordBytes E headRecordError leaf.toBody

/-- The bytes of a registration determine it. -/
theorem AnchorRegistrationLeafV1.bytes_inj {leaf leaf' : AnchorRegistrationLeafV1}
    {data : ByteArray} (h : leaf.bytes E = .ok data) (h' : leaf'.bytes E = .ok data) :
    leaf = leaf' := by
  rw [AnchorRegistrationLeafV1.bytes, canonicalRecordBytes, mapError_eq_ok] at h h'
  have hnormal := Except.ok.inj
    ((strictLoads_canonicalDumps h).symm.trans (strictLoads_canonicalDumps h'))
  simp only [AnchorRegistrationLeafV1.toBody, normalForm, normalFormMembers] at hnormal
  simp [setItem, sortMembers] at hnormal
  obtain ⟨hpolicy, hstatement, henvironment, hsequence, hmission, hservice⟩ := hnormal
  cases leaf
  cases leaf'
  simp only [AnchorRegistrationLeafV1.mk.injEq]
  exact ⟨hservice, henvironment, contentIdText_inj hmission, hsequence,
    contentIdText_inj hpolicy, contentIdText_inj hstatement⟩

/-- The leaf of a request is the digest of the bytes of its registration. -/
theorem HeadAnchorRequestV1.leaf_spec (request : HeadAnchorRequestV1 E) :
    ∃ data, request.registration.bytes E = .ok data ∧
      request.anchorLeafHash = E.sha256 (leafInput data) := by
  obtain ⟨data, hdata, hrest⟩ := bind_eq_ok.mp request.leaf
  obtain ⟨-, hreturn⟩ := unit_bind_eq_ok.mp hrest
  exact ⟨data, hdata, (Except.ok.inj hreturn).symm⟩

/-! ## Places -/

/-- The bytes that are hashed when an anchor's proof is checked, with those of its registration. -/
def hashedAnchor (package : AnchorPackage E) (data : ByteArray) : List ByteArray :=
  leafInput data :: (inclusionPairs (merkleTreeHash E.sha256)
    (digestBytes package.request.anchorLeafHash) package.claim.leafIndex package.claim.treeSize
    (package.claim.inclusionProof.map digestBytes)).map nodeInput

/-- Two packages report one place of one log. -/
structure SamePlace (package package' : AnchorPackage E) : Prop where
  root : package.claim.logRootHash = package'.claim.logRootHash
  size : package.claim.treeSize = package'.claim.treeSize
  index : package.claim.leafIndex = package'.claim.leafIndex

/-- One place of an anchor's log holds one registration : two bundles that qualified, whatever
their profiles, times and requests, with packages that report the same place of the same log, are
about the same statement of the same mission at the same sequence, unless their checks exhibit a
collision. -/
theorem anchor_place {profile profile' : HeadAuthorityTrustProfileV1 E}
    {timeProfile timeProfile' : IntegrityAdapterTrustProfileV1 E}
    {timeBundle timeBundle' : SealedTimeBundleV1}
    {requests requests' : SourceMap (HeadAnchorRequestV1 E)}
    {signedEvidence signedEvidence' : SourceMap SignedEvidenceV1}
    {bundle bundle' : QualifiedAnchorBundleV1 E}
    (h : qualifyAnchorBundleV1 profile timeProfile timeBundle requests signedEvidence =
      .ok bundle)
    (h' : qualifyAnchorBundleV1 profile' timeProfile' timeBundle' requests' signedEvidence' =
      .ok bundle')
    {package package' : AnchorPackage E} (hpackage : package ∈ bundle.authenticatedPackages)
    (hpackage' : package' ∈ bundle'.authenticatedPackages) (hplace : SamePlace package package') :
    (package.request.registration = package'.request.registration ∧
        bundle.anchorStatementId = bundle'.anchorStatementId ∧
        bundle.instanceSequence = bundle'.instanceSequence ∧
        bundle.anchorPolicyId = bundle'.anchorPolicyId) ∨
      ∃ data data', package.request.registration.bytes E = .ok data ∧
        package'.request.registration.bytes E = .ok data' ∧
          HashCollision E.sha256 (hashedAnchor package data) (hashedAnchor package' data') := by
  obtain ⟨time, -, -, -, hanchored⟩ := qualifyAnchorBundle_spec h
  obtain ⟨time', -, -, -, hanchored'⟩ := qualifyAnchorBundle_spec h'
  have hpassed := hanchored package hpackage
  have hpassed' := hanchored' package' hpackage'
  have hincluded := hpassed.included
  have hincluded' := hpassed'.included
  obtain ⟨data, hdata, hleaf⟩ := package.request.leaf_spec
  obtain ⟨data', hdata', hleaf'⟩ := package'.request.leaf_spec
  rw [← hpassed.leaf, hplace.root, hplace.size, hplace.index] at hincluded
  rw [← hpassed'.leaf] at hincluded'
  rcases inclusion_collides hincluded hincluded' with hsameLeaf | hcollision
  · have hdigest := digestBytes_inj hsameLeaf
    by_cases hsame : data = data'
    · subst hsame
      have hregistration := AnchorRegistrationLeafV1.bytes_inj hdata hdata'
      refine Or.inl ⟨hregistration, ?_, ?_, ?_⟩
      · rw [← hpassed.statement, ← hpassed'.statement]
        exact congrArg AnchorRegistrationLeafV1.anchorStatementId hregistration
      · rw [← hpassed.sequence, ← hpassed'.sequence]
        exact congrArg AnchorRegistrationLeafV1.instanceSequence hregistration
      · rw [← hpassed.policy, ← hpassed'.policy]
        exact congrArg AnchorRegistrationLeafV1.anchorPolicyId hregistration
    · rw [hleaf, hleaf'] at hdigest
      exact Or.inr ⟨data, data', hdata, hdata', _, List.mem_cons_self, _, List.mem_cons_self,
        fun heq => hsame (leafInput_inj heq), hdigest⟩
  · refine Or.inr ⟨data, data', hdata, hdata', ?_⟩
    rw [hashedAnchor, hashedAnchor, hplace.size, hplace.index]
    exact hcollision.mono (List.subset_cons_self _ _) (List.subset_cons_self _ _)

/-! ## A sample -/

def sampleAnchorLeaf : AnchorRegistrationLeafV1 := ⟨"service", "fixture", 11, 0, 16, 17⟩

theorem sampleAnchorLeaf_hashed : ∃ leaf, sampleAnchorLeaf.leafHash sampleAdapterEnv =
    .ok leaf := by
  have hadmitted : Admitted sampleAdapterEnv.nfc 0 sampleAnchorLeaf.toBody := by
    refine admitted_record (by decide +kernel : PlainFields ["anchor_policy_id",
      "anchor_statement_id", "contract_version", "environment_id", "instance_sequence",
      "mission_id", "service_instance_id"]) rfl (by decide) ?_
    simp only [List.forall_mem_cons, List.not_mem_nil, false_imp_iff, implies_true, and_true]
    exact ⟨admitted_contentIdText (by decide) _, admitted_contentIdText (by decide) _,
      .int (by decide) (by decide) (by decide),
      admitted_identity (by decide) sampleHeadProfile.environment,
      .int (by decide) (by decide) (by decide), admitted_contentIdText (by decide) _,
      admitted_identity (by decide) sampleHeadProfile.service⟩
  obtain ⟨hdumps, -⟩ := canonicalDumps_weight
    (normalized_of_admitted hadmitted (by decide +kernel)) (by decide +kernel)
  have hne : (encoded sampleAnchorLeaf.toBody).size ≠ 0 := by
    rw [size_encoded, AnchorRegistrationLeafV1.toBody, textSize_dumps_obj]
    omega
  exact ⟨_, bind_eq_ok.mpr ⟨_, mapError_eq_ok.mpr hdumps, merkleLeafHash_eq hne⟩⟩

theorem sampleAnchor_supported :
    AdapterRole.headCatalog ∈ [AdapterRole.headCatalog, AdapterRole.headMonitor] := by
  decide

theorem sampleAnchor_sequence : 0 ≤ maxAdapterEpoch := Nat.zero_le _

theorem sampleAnchor_sized : 1 ≤ 1 ∧ 1 ≤ maxHeadTreeSizeV1 := by decide

/-- A request to register the sample, which carries a log of one leaf. -/
def sampleAnchorRequest (sourceId : String) (leaf : Digest)
    (hleaf : sampleAnchorLeaf.leafHash sampleAdapterEnv = .ok leaf) :
    HeadAnchorRequestV1 sampleAdapterEnv where
  toHeadRequestScope :=
    (sampleCatalogRequest .genesis sourceId .headCatalog sampleAnchor_supported).toHeadRequestScope
  anchorPolicyId := 16
  instanceSequence := 0
  anchorStatementId := 17
  anchorLeafHash := leaf
  priorTreeSize := 1
  sequence := sampleAnchor_sequence
  sized := sampleAnchor_sized
  leaf := hleaf

/-- An anchor includes the registration as the only leaf of its log. -/
def sampleAnchorClaim (logOrigin : String) (leaf : Digest) : HeadAnchorClaim :=
  ⟨logOrigin, leaf, 1, 0, 90, []⟩

def sampleAnchorBody (logOrigin : String) (leaf : Digest) : List (String × Json) :=
  [("anchor_statement_id", .str (contentIdText 17)), ("inclusion_proof", .arr []),
    ("leaf_hash", .str (contentIdText leaf)), ("leaf_index", .int 0),
    ("log_origin", .str logOrigin), ("log_root_hash", .str (contentIdText leaf)),
    ("registered_at", .int 90), ("tree_size", .int 1)]

variable {leaf : Digest} (hleaf : sampleAnchorLeaf.leafHash sampleAdapterEnv = .ok leaf)

theorem sampleAnchorBody_valid (sourceId : String) (binding : HeadAuthoritySourceBindingV1) :
    validateAnchorClaim (sampleAnchorRequest sourceId leaf hleaf) binding
      (sampleAnchorBody binding.logOrigin leaf) =
        .ok (sampleAnchorClaim binding.logOrigin leaf) := by
  have hfields : (sampleAnchorBody binding.logOrigin leaf).map Prod.fst = anchorClaimFields := by
    rfl
  have hstatement : ¬contentIdText 17 ≠
      contentIdText (sampleAnchorRequest sourceId leaf hleaf).anchorStatementId :=
    not_not.mpr rfl
  have hsame : ¬contentIdText leaf ≠
      contentIdText (sampleAnchorRequest sourceId leaf hleaf).anchorLeafHash :=
    not_not.mpr rfl
  rw [validateAnchorClaim, requireExactDict_bind hfields, bind_of_ok (requireLogOrigin_eq_ok rfl)]
  simp only [sampleAnchorBody, field, List.lookup, String.reduceBEq, orRefuse_some_bind,
    requireHeadDigest]
  rw [requireText_bind (isContentId_contentIdText _), refuseIf_bind_of_not hstatement,
    requireText_bind (isContentId_contentIdText _), refuseIf_bind_of_not hsame,
    requireText_bind (isContentId_contentIdText _),
    bind_of_ok (show requireTreeSize (.int 1) "tree_size" = .ok 1 from rfl),
    bind_of_ok (show requireHeadNat (.int 0) "leaf_index" = .ok 0 from rfl),
    bind_of_ok (show requireHeadEpoch (.int 90) "registered_at" = .ok 90 from rfl),
    bind_of_ok (show validatedProof (.arr []) "inclusion_proof" = .ok [] from rfl),
    digestOf_contentIdText]
  rfl

theorem sampleAnchorBody_small {binding : HeadAuthoritySourceBindingV1}
    (horigin : binding.logOrigin = "log_a" ∨ binding.logOrigin = "log_b") (leaf : Digest) :
    Admitted sampleAdapterEnv.nfc 1 (.obj (sampleAnchorBody binding.logOrigin leaf)) ∧
      nodes (.obj (sampleAnchorBody binding.logOrigin leaf)) ≤ 1000 ∧
      weight (.obj (sampleAnchorBody binding.logOrigin leaf)) ≤ 20000 := by
  refine ⟨admitted_record (by decide +kernel : PlainFields anchorClaimFields) rfl (by decide) ?_,
    ?_, ?_⟩
  · simp only [sampleAnchorBody, List.forall_mem_cons, List.not_mem_nil, false_imp_iff,
      implies_true, and_true]
    have hid (d : Digest) : Admitted sampleAdapterEnv.nfc 2 (.str (contentIdText d)) :=
      admitted_contentIdText (by decide) d
    exact ⟨hid 17, .arr (by decide) (by decide) (List.forall_mem_nil _), hid leaf,
      .int (by decide) (by decide) (by decide),
      admitted_identity (by decide) binding.identities.2.1, hid leaf,
      .int (by decide) (by decide) (by decide), .int (by decide) (by decide) (by decide)⟩
  · simp only [sampleAnchorBody, nodes, nodesMembers, nodesItems]
    decide
  · simp only [sampleAnchorBody, weight, weightMembers, weightItems, length_contentIdText]
    rcases horigin with horigin | horigin <;> rw [horigin] <;> decide +kernel

/-- A sample anchor that signs its claim is authenticated. -/
theorem sampleAnchor_authenticated {binding : HeadAuthoritySourceBindingV1}
    (hbinding : binding ∈ sampleHeadBindings) (hrole : binding.role = .headAnchor)
    (horigin : binding.logOrigin = "log_a" ∨ binding.logOrigin = "log_b") :
    ∃ signed package, authenticateAnchorEvidence sampleHeadProfile
        (sampleAnchorRequest binding.sourceId leaf hleaf) signed = .ok package ∧
      package.claim = sampleAnchorClaim binding.logOrigin leaf ∧
      package.request.sourceId = binding.sourceId ∧
      package.providerEvidence.content.length ≤ maxProviderEvidenceBlobBytesV1 := by
  obtain ⟨key, hkey, -⟩ := sampleHeadProfile.matched binding hbinding
  obtain ⟨hadmitted, hnodes, hweight⟩ := sampleAnchorBody_small horigin leaf
  obtain ⟨wire, -, -, hbounded, hauthentic⟩ := authenticate_signedHeadAnswer
    (sampleAnchorRequest binding.sourceId leaf hleaf).frame
    (sampleAnchorRequest binding.sourceId leaf hleaf) rfl rfl
    (HeadAuthorityTrustProfileV1.bindingFor_eq_ok.mpr ⟨hbinding, hrole, rfl⟩)
    (by simp [sampleHeadProfile, sampleHeadStore]) hkey (decide_eq_true rfl) hadmitted hnodes
    hweight (sampleAnchorBody_valid hleaf binding.sourceId binding) (by decide)
  refine ⟨_, _, hauthentic, rfl, rfl, ?_⟩
  rwa [Array.length_toList, ByteArray.size_data]

/-- The sample anchor passes the checks of its source. -/
theorem sampleAnchor_passed {wireA wireB : ByteArray} {sourceId logOrigin : String}
    {requests : SourceMap (HeadAnchorRequestV1 sampleAdapterEnv)}
    {signedEvidence : SourceMap SignedEvidenceV1} {signed : SignedEvidenceV1}
    {package : AnchorPackage sampleAdapterEnv}
    (hrequest : item requests sourceId = .ok (sampleAnchorRequest sourceId leaf hleaf))
    (hsigned : item signedEvidence sourceId = .ok signed)
    (hauthentic : authenticateAnchorEvidence sampleHeadProfile
      (sampleAnchorRequest sourceId leaf hleaf) signed = .ok package)
    (hclaim : package.claim = sampleAnchorClaim logOrigin leaf) :
    authenticateAnchorSource sampleHeadProfile (sampleTimeBundle wireA wireB) requests
      signedEvidence sourceId = .ok package := by
  have hincluded : verifyMerkleInclusionV1 (merkleTreeHash sampleAdapterEnv.sha256)
      (digestBytes leaf) (0 : ℕ) (1 : ℕ) [] (digestBytes leaf) = .ok () :=
    verifyMerkleInclusionV1_eq_ok.mpr ⟨length_digestBytes _, length_digestBytes _, by decide,
      by decide, by decide, List.forall_mem_nil _, by simp [sides], by simp [sides, ascend]⟩
  have hfresh : requireFreshHead 90 (sampleTimeBundle wireA wireB) 40
      "anchor registration time" = .ok () :=
    unit_bind_eq_ok.mpr ⟨refuseIf_eq_ok.mpr (show ¬90 > 100 by decide),
      refuseIf_eq_ok.mpr (show ¬130 - 90 > 40 by decide)⟩
  refine authenticateAnchorSource_of hrequest hsigned hauthentic
    (sampleCatalogRequest_bindsTime .genesis wireA wireB sourceId sampleAnchor_supported) ?_ ?_ ?_
  · rw [hclaim]
    exact le_rfl
  · rw [hclaim]
    exact hincluded
  · rw [hclaim]
    exact hfresh

/-- Both anchors register the sample, each at the only place of its log. -/
theorem sampleAnchor_qualified :
    ∃ wireA wireB requests signedEvidence bundle packageA packageB,
      qualifyAnchorBundleV1 sampleHeadProfile sampleAdapterProfile
        (sampleTimeBundle wireA wireB) requests signedEvidence = .ok bundle ∧
      packageA ∈ bundle.authenticatedPackages ∧ packageB ∈ bundle.authenticatedPackages ∧
      packageA.request.sourceId = "anchor_a" ∧ packageB.request.sourceId = "anchor_b" ∧
      SamePlace packageA packageB := by
  obtain ⟨wireA, wireB, timeRequests, timeEvidence, htime⟩ := sampleTimeBundle_qualified
  obtain ⟨leaf, hleaf⟩ := sampleAnchorLeaf_hashed
  obtain ⟨signedA, packageA, hA, hclaimA, hsourceA, hsizeA⟩ := sampleAnchor_authenticated hleaf
    (show sampleAnchorA ∈ sampleHeadBindings by simp [sampleHeadBindings]) rfl (.inl rfl)
  obtain ⟨signedB, packageB, hB, hclaimB, hsourceB, hsizeB⟩ := sampleAnchor_authenticated hleaf
    (show sampleAnchorB ∈ sampleHeadBindings by simp [sampleHeadBindings]) rfl (.inr rfl)
  let filed : List (String × HeadAnchorRequestV1 sampleAdapterEnv) :=
    [("anchor_a", sampleAnchorRequest "anchor_a" leaf hleaf),
      ("anchor_b", sampleAnchorRequest "anchor_b" leaf hleaf)]
  let signed : List (String × SignedEvidenceV1) := [("anchor_a", signedA), ("anchor_b", signedB)]
  have hroster : (sampleHeadProfile.bindingsFor .headAnchor).map (·.sourceId) =
      ["anchor_a", "anchor_b"] := by
    decide +kernel
  have hnodup : ["anchor_a", "anchor_b"].Nodup := by decide
  obtain ⟨hrequestsExact, hrequests⟩ := sourceMap_roster Prod.snd hnodup
    (rfl : filed.map Prod.fst = _) "head_anchor_requests"
  obtain ⟨hsignedExact, hsigned⟩ := sourceMap_roster Prod.snd hnodup
    (rfl : signed.map Prod.fst = _) "head_anchor_evidence"
  generalize sourceMap (filed.map fun v => (v.1, v.2)) = requests at hrequestsExact hrequests
  generalize sourceMap (signed.map fun v => (v.1, v.2)) = evidence at hsignedExact hsigned
  simp only [filed, signed, List.forall_mem_cons, List.not_mem_nil, false_imp_iff, implies_true,
    and_true] at hrequests hsigned
  obtain ⟨hrequestA, hrequestB⟩ := hrequests
  obtain ⟨hsignedA, hsignedB⟩ := hsigned
  have hfiled : ["anchor_a", "anchor_b"].forM (fun sourceId => do
      let request ← item requests sourceId
      refuseIf (request.sourceId ≠ sourceId)
        (⟨"head_source_set_mismatch", "an anchor request is filed under another source label"⟩ :
          AdapterError)) = .ok () := by
    rw [forM_eq_ok]
    simp only [List.forall_mem_cons, List.not_mem_nil, false_imp_iff, implies_true, and_true]
    exact ⟨bind_eq_ok.mpr ⟨_, hrequestA, refuseIf_eq_ok.mpr (not_not.mpr rfl)⟩,
      bind_eq_ok.mpr ⟨_, hrequestB, refuseIf_eq_ok.mpr (not_not.mpr rfl)⟩⟩
  have htuple : ["anchor_a", "anchor_b"].mapM (item requests) =
      .ok [sampleAnchorRequest "anchor_a" leaf hleaf, sampleAnchorRequest "anchor_b" leaf hleaf] :=
    mapM_eq_ok.mpr (.cons hrequestA (.cons hrequestB .nil))
  have hshared : requireSharedScope sharedAnchorFields [sampleAnchorRequest "anchor_a" leaf hleaf,
      sampleAnchorRequest "anchor_b" leaf hleaf] = .ok () := by
    refine requireSharedScope_of fun request hmem => ?_
    obtain rfl := List.mem_singleton.mp hmem
    simp [sharedAnchorFields, sharedScopeFields, sharing, sampleAnchorRequest,
      sampleCatalogRequest]
  have hpackages : ["anchor_a", "anchor_b"].mapM (authenticateAnchorSource sampleHeadProfile
      (sampleTimeBundle wireA wireB) requests evidence) = .ok [packageA, packageB] :=
    mapM_eq_ok.mpr (.cons (sampleAnchor_passed hleaf hrequestA hsignedA hA hclaimA)
      (.cons (sampleAnchor_passed hleaf hrequestB hsignedB hB hclaimB) .nil))
  have hbounded : requireBoundedEvidence ([packageA, packageB].map (·.providerEvidence)) =
      .ok () :=
    refuseIf_eq_ok.mpr (not_lt.mpr (evidenceBytes_le (by decide : 2 ≤ 16)
      (List.forall_mem_cons.mpr ⟨hsizeA, List.forall_mem_singleton.mpr hsizeB⟩)))
  refine ⟨wireA, wireB, requests, evidence, ⟨sampleHeadProfile.profileId, 16, 17, leaf, 0,
    (sampleTimeBundle wireA wireB).bundleId sampleAdapterEnv, [packageA, packageB]⟩, packageA,
    packageB, ?_, List.mem_cons_self, List.mem_cons_of_mem _ (List.mem_singleton_self _), hsourceA,
    hsourceB, by rw [hclaimA, hclaimB]; rfl, by rw [hclaimA, hclaimB]; rfl,
    by rw [hclaimA, hclaimB]; rfl⟩
  rw [qualifyAnchorBundleV1, bind_of_ok (reauthenticateTimeBundle_again htime), hroster]
  exact unit_bind_eq_ok.mpr ⟨exactHeadSourceMapping_of hrequestsExact, unit_bind_eq_ok.mpr
    ⟨exactHeadSourceMapping_of hsignedExact, unit_bind_eq_ok.mpr ⟨hfiled, bind_eq_ok.mpr
      ⟨_, htuple, unit_bind_eq_ok.mpr ⟨hshared, bind_eq_ok.mpr ⟨_, hpackages, unit_bind_eq_ok.mpr
        ⟨hbounded, bind_eq_ok.mpr ⟨_, rfl, rfl⟩⟩⟩⟩⟩⟩⟩⟩

/-- The two anchors of the sample report one place with one root, so they registered one
statement. -/
theorem anchor_place_sample :
    ∃ wireA wireB requests signedEvidence bundle packageA packageB,
      qualifyAnchorBundleV1 sampleHeadProfile sampleAdapterProfile
        (sampleTimeBundle wireA wireB) requests signedEvidence = .ok bundle ∧
      packageA ∈ bundle.authenticatedPackages ∧ packageB ∈ bundle.authenticatedPackages ∧
      packageA.request.sourceId = "anchor_a" ∧ packageB.request.sourceId = "anchor_b" ∧
      (packageA.request.registration = packageB.request.registration ∨
        ∃ data data', packageA.request.registration.bytes sampleAdapterEnv = .ok data ∧
          packageB.request.registration.bytes sampleAdapterEnv = .ok data' ∧
            HashCollision sampleAdapterEnv.sha256 (hashedAnchor packageA data)
              (hashedAnchor packageB data')) := by
  obtain ⟨wireA, wireB, requests, signedEvidence, bundle, packageA, packageB, hqualified, hmemA,
    hmemB, hsourceA, hsourceB, hplace⟩ := sampleAnchor_qualified
  exact ⟨wireA, wireB, requests, signedEvidence, bundle, packageA, packageB, hqualified, hmemA,
    hmemB, hsourceA, hsourceB,
    (anchor_place hqualified hqualified hmemA hmemB hplace).imp_left And.left⟩

end Etzio
