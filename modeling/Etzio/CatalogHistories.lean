import Etzio.HeadClaims
import Etzio.Histories

/-!
# Catalog histories

Catalog bundles that follow one another : every request carries the log and the head that the
bundle before it qualified, and the head of its mission from the last bundle of that mission.
`catalog_non_equivocation` is the law of such a history. What it says of roots and of heads of one
size holds unless the checks that were made exhibit two byte strings with one SHA-256 digest.
-/

open CheckedRun JsonText Histories MerkleTrees

namespace Etzio

/-! ## Collisions of byte strings -/

/-- Two families of byte strings exhibit a collision of a hash function. -/
def HashCollision (sha256 : ByteArray → Digest) (P Q : List ByteArray) : Prop :=
  ∃ x ∈ P, ∃ y ∈ Q, x ≠ y ∧ sha256 x = sha256 y

/-- The bytes that are hashed for a leaf. -/
def leafInput (data : ByteArray) : ByteArray := (0 :: data.data.toList).toByteArray

/-- The bytes that are hashed for a node. -/
def nodeInput (children : List UInt8 × List UInt8) : ByteArray :=
  (merkleNodePrefix :: children.1 ++ children.2).toByteArray

theorem merkleLeafHash_eq {E : AdapterEnv} {data : ByteArray} (hne : data.size ≠ 0) :
    merkleLeafHashV1 E data = .ok (E.sha256 (leafInput data)) :=
  unit_bind_eq_ok.mpr ⟨refuseIf_eq_ok.mpr hne, rfl⟩

theorem leafInput_inj {data data' : ByteArray} (h : leafInput data = leafInput data') :
    data = data' := by
  have hlist := congrArg (fun b : ByteArray => b.data.toList) h
  simp only [leafInput, List.data_toByteArray, List.toList_toArray, List.cons.injEq,
    true_and] at hlist
  exact ByteArray.ext (Array.toList_inj.mp hlist)

theorem nodeInput_inj {x y : List UInt8 × List UInt8} (hx : IsChildPair x) (hy : IsChildPair y)
    (h : nodeInput x = nodeInput y) : x = y := by
  have hlist := congrArg (fun b : ByteArray => b.data.toList) h
  simp only [nodeInput, List.data_toByteArray, List.toList_toArray, List.cons_append,
    List.cons.injEq, true_and] at hlist
  obtain ⟨hleft, hright⟩ := List.append_inj hlist (hx.1.trans hy.1.symm)
  exact Prod.ext hleft hright

theorem length_digestBytes (d : Digest) : (digestBytes d).length = 32 := by
  simp [digestBytes]

/-- The bytes of a digest determine it. -/
theorem digestBytes_inj {d d' : Digest} (h : digestBytes d = digestBytes d') : d = d' := by
  have hbyte : ∀ i < 32, d.toNat / 256 ^ (31 - i) % 256 = d'.toNat / 256 ^ (31 - i) % 256 := by
    intro i hi
    have hget := congrArg (fun bytes => bytes[i]?) h
    simpa [digestBytes, hi, ← UInt8.toNat_inj] using hget
  have hprefix : ∀ k ≤ 32, d.toNat / 256 ^ (32 - k) = d'.toNat / 256 ^ (32 - k) := by
    intro k hk
    induction k with
    | zero =>
      have hbound : 2 ^ 256 = 256 ^ (32 - 0) := by norm_num
      rw [Nat.div_eq_of_lt (hbound ▸ d.isLt), Nat.div_eq_of_lt (hbound ▸ d'.isLt)]
    | succ k ih =>
      have hpow : 256 ^ (32 - k) = 256 ^ (31 - k) * 256 := by
        rw [← pow_succ, show 31 - k + 1 = 32 - k by omega]
      have ih := ih (by omega)
      have hlow := hbyte k (by omega)
      rw [hpow, ← Nat.div_div_eq_div_mul, ← Nat.div_div_eq_div_mul] at ih
      rw [show 32 - (k + 1) = 31 - k by omega]
      omega
  exact BitVec.eq_of_toNat_eq (by simpa using hprefix 32 le_rfl)

/-- A collision of nodes is one of the bytes that were hashed for them. -/
theorem Collision.hashed {sha256 : ByteArray → Digest} {P Q : List (List UInt8 × List UInt8)}
    (h : Collision (merkleTreeHash sha256) P Q) :
    HashCollision sha256 (P.map nodeInput) (Q.map nodeInput) := by
  obtain ⟨x, hx, y, hy, hxChild, hyChild, hne, hnode⟩ := h
  exact ⟨_, List.mem_map_of_mem hx, _, List.mem_map_of_mem hy,
    fun heq => hne (nodeInput_inj hxChild hyChild heq), digestBytes_inj hnode⟩

theorem HashCollision.mono {sha256 : ByteArray → Digest} {P P' Q Q' : List ByteArray}
    (h : HashCollision sha256 P Q) (hP : P ⊆ P') (hQ : Q ⊆ Q') : HashCollision sha256 P' Q' := by
  obtain ⟨x, hx, y, hy, hxy⟩ := h
  exact ⟨x, hP hx, y, hQ hy, hxy⟩

/-! ## What the proofs bind -/

/-- Two leaves that are accepted at one place under one root are one leaf, or their checks exhibit a
collision. -/
theorem inclusion_collides {sha256 : ByteArray → Digest}
    {leafHash leafHash' rootHash : List UInt8} {leafIndex : ℤ} {treeSize : ℕ}
    {proof proof' : List (List UInt8)}
    (h : verifyMerkleInclusionV1 (merkleTreeHash sha256) leafHash leafIndex treeSize proof
      rootHash = .ok ())
    (h' : verifyMerkleInclusionV1 (merkleTreeHash sha256) leafHash' leafIndex treeSize proof'
      rootHash = .ok ()) :
    leafHash = leafHash' ∨ HashCollision sha256
      ((inclusionPairs (merkleTreeHash sha256) leafHash leafIndex treeSize proof).map nodeInput)
      ((inclusionPairs (merkleTreeHash sha256) leafHash' leafIndex treeSize proof').map
        nodeInput) := by
  obtain ⟨hleaf, -, hlow, hhigh, -, hnodes, hlength, hascend⟩ := verifyMerkleInclusionV1_eq_ok.mp h
  obtain ⟨hleaf', -, -, -, -, hnodes', hlength', hascend'⟩ := verifyMerkleInclusionV1_eq_ok.mp h'
  rcases ascend_binds _ hlength hlength' (hascend.trans hascend'.symm) with ⟨hsame, -⟩ | hcollide
  · exact Or.inl hsame
  · have hlast : ((treeSize : ℤ) - 1).toNat = (treeSize : ℤ).toNat - 1 := by omega
    refine Or.inr (Collision.hashed ?_)
    rw [inclusionPairs, inclusionPairs, hlast, inclusionLoopPairs_eq (by omega) hlength,
      inclusionLoopPairs_eq (by omega) hlength']
    exact collision_of_collide hcollide (ascentPairs_isChildPair hnodes hleaf)
      (ascentPairs_isChildPair hnodes' hleaf')

/-- A grown log is reached from a seed along the sides of the last complete subtree of the first
size, and its check hashes at least the pairs of that ascent. -/
theorem consistency_ascends {T : TreeHash} {s j size : ℕ} {firstRoot secondRoot : List UInt8}
    {proof : List (List UInt8)} (hlt : 2 ^ s * (2 * j + 1) < size)
    (h : verifyMerkleConsistencyV1 T ((2 ^ s * (2 * j + 1) : ℕ) : ℤ) firstRoot size secondRoot
      proof = .ok ()) :
    ∃ seed remaining, seed.length = 32 ∧ (∀ node ∈ remaining, node.length = 32) ∧
      remaining.length = (sides (2 * j) ((size - 1) / 2 ^ s)).length ∧
      ascendLeft T.node (leftNodes (sides (2 * j) ((size - 1) / 2 ^ s)) remaining) seed =
        firstRoot ∧
      ascend T.node (sides (2 * j) ((size - 1) / 2 ^ s)) remaining seed = secondRoot ∧
      ascentPairs T.node (sides (2 * j) ((size - 1) / 2 ^ s)) remaining seed ⊆
        consistencyPairs T ((2 ^ s * (2 * j + 1) : ℕ) : ℤ) firstRoot size proof := by
  obtain ⟨hfirst, -, -, seed, remaining, hseed, hnodes, hlength, hleft, hascend⟩ :=
    (verifyMerkleConsistencyV1_grown (by exact_mod_cast hlt)).mp h
  rw [Int.toNat_natCast] at hlength hleft hascend
  have hseed32 : seed.length = 32 := by
    rcases consistencySeed_eq_ok.mp hseed with ⟨-, -, rfl, -⟩ | ⟨-, hseed32, -⟩
    · exact hfirst
    · exact hseed32
  have hpow := Nat.two_pow_pos s
  have hindex : (2 ^ s * (2 * j + 1)) >>> s = 2 * j + 1 := by
    rw [Nat.shiftRight_eq_div_pow, Nat.mul_div_cancel_left _ hpow]
  have hlast : ((size : ℤ) - 1).toNat >>> s = (size - 1) / 2 ^ s := by
    rw [Nat.shiftRight_eq_div_pow]
    congr 1
    omega
  have hle : 2 * j ≤ (size - 1) / 2 ^ s := by
    have hmul : 2 ^ s * (2 * j) ≤ 2 ^ s * (2 * j + 1) := Nat.mul_le_mul_left _ (Nat.le_succ _)
    rw [Nat.le_div_iff_mul_le hpow, mul_comm]
    omega
  refine ⟨seed, remaining, hseed32, hnodes, hlength, hleft, hascend, ?_⟩
  rw [consistencyPairs]
  simp only [trailingZeros_eq, Int.toNat_natCast, hindex, hseed, hlast, Nat.add_sub_cancel]
  exact ascentPairs_subset_consistency hle hlength

/-- The first root of an accepted check against the root of a tree is that of so many leaves, or
the check and the tree exhibit a collision. -/
theorem consistency_collides {sha256 : ByteArray → Digest} {leafHashes proof : List (List UInt8)}
    (hleaves : ∀ x ∈ leafHashes, x.length = 32) {firstSize : ℕ} {firstRoot : List UInt8}
    (hpos : 0 < firstSize)
    (h : verifyMerkleConsistencyV1 (merkleTreeHash sha256) firstSize firstRoot leafHashes.length
      (merkleRootV1 (merkleTreeHash sha256) leafHashes) proof = .ok ()) :
    firstRoot = merkleRootV1 (merkleTreeHash sha256) (leafHashes.take firstSize) ∨
      HashCollision sha256
        ((consistencyPairs (merkleTreeHash sha256) firstSize firstRoot leafHashes.length proof).map
          nodeInput)
        ((merkleRootPairs (merkleTreeHash sha256) leafHashes).map nodeInput) := by
  have hsize : firstSize ≤ leafHashes.length := by
    simp only [verifyMerkleConsistencyV1, bind_eq_ok, refuseIf_eq_ok, exists_const, not_lt,
      Nat.cast_le] at h
    exact h.2.2.2.2.2.1
  rcases hsize.eq_or_lt with rfl | hlt
  · simp only [verifyMerkleConsistencyV1, bind_eq_ok, refuseIf_eq_ok, exists_const, not_not,
      if_true] at h
    rw [List.take_length]
    exact Or.inl h.2.2.2.2.2.2.2
  obtain ⟨s, j, rfl⟩ := exists_odd_part hpos
  obtain ⟨seed, remaining, hseed, hnodes, hlength, hleft, hascend, hpairs⟩ :=
    consistency_ascends hlt h
  -- The same place in the tree itself, with the path and the root of the tree.
  obtain ⟨x, hx, hlast, -, hroot⟩ := grown_place (T := merkleTreeHash sha256) hlt
  have hplace := ascent_of_get (merkleTreeHash sha256).node hx
  have hpath := hplace.length_path
  have htop := hplace.ascend_path (merkleTreeHash sha256).node (merkleTreeHash sha256).empty
  have hsubset := hplace.ascentPairs_subset
  rw [hlast] at hpath htop hsubset
  rw [top_levels, ← merkleRootV1_eq] at htop
  rcases ascend_binds _ hlength hpath (hascend.trans htop.symm) with ⟨rfl, rfl⟩ | hcollide
  · rw [← hleft, hroot, ← hlast]
    exact Or.inl (hplace.top_take _ (merkleTreeHash sha256).empty hx)
  · have htree := List.Subset.trans hsubset
      (List.Subset.trans (topPairs_levels _ s leafHashes) (topPairs_subset _))
    have hcollision := collision_of_collide hcollide (ascentPairs_isChildPair hnodes hseed)
      fun q hq => merkleRootPairs_isChildPair hleaves q (htree hq)
    exact Or.inr (hcollision.hashed.mono (List.map_subset _ hpairs) (List.map_subset _ htree))

/-- A log that did not grow is consistent with itself. -/
theorem verifyMerkleConsistency_self (T : TreeHash) {root : List UInt8} {size : ℕ}
    (hroot : root.length = 32) (hsize : 0 < size) :
    verifyMerkleConsistencyV1 T size root size root [] = .ok () := by
  have hpos : ¬(size : ℤ) ≤ 0 := by omega
  rw [verifyMerkleConsistencyV1, refuseIf_bind_of_not (not_not.mpr hroot),
    refuseIf_bind_of_not (not_not.mpr hroot), refuseIf_bind_of_not hpos,
    refuseIf_bind_of_not hpos, refuseIf_bind_of_not (by simp),
    refuseIf_bind_of_not (lt_irrefl _), if_pos rfl, refuseIf_bind_of_not (not_not.mpr rfl)]
  exact refuseIf_eq_ok.mpr (not_not.mpr rfl)

/-! ## Histories of one log -/

variable (E : AdapterEnv)

/-- A qualification of a catalog bundle. -/
structure CatalogLink where
  profile : HeadAuthorityTrustProfileV1 E
  timeProfile : IntegrityAdapterTrustProfileV1 E
  timeBundle : SealedTimeBundleV1
  requests : SourceMap (HeadCatalogRequestV1 E)
  signedEvidence : SourceMap SignedEvidenceV1
  bundle : QualifiedHeadCatalogBundleV1 E
  qualified : qualifyHeadCatalogBundleV1 profile timeProfile timeBundle requests signedEvidence =
    .ok bundle

variable {E}

namespace CatalogLink

def request (link : CatalogLink E) : HeadCatalogRequestV1 E := link.bundle.catalogRequest

def head (link : CatalogLink E) : HeadCheckpointFloorV1 := link.bundle.externalFloor

/-- The bytes that are hashed when the projected head is checked to be the last leaf. -/
def hashedInclusion (link : CatalogLink E) : List ByteArray :=
  match catalogProjectionLeafBytesV1 link.profile link.head.missionId link.head with
  | .ok data => leafInput data :: (inclusionPairs (merkleTreeHash E.sha256)
      (digestBytes (E.sha256 (leafInput data))) (link.bundle.treeSize - 1) link.bundle.treeSize
      (link.bundle.catalogPackage.claim.projectionInclusionProof.map digestBytes)).map nodeInput
  | .error _ => []

/-- The bytes that are hashed when the log is checked to extend the retained one. -/
def hashedConsistency (link : CatalogLink E) : List ByteArray :=
  (consistencyPairs (merkleTreeHash E.sha256) link.request.priorTreeSize
    (digestBytes link.request.priorLogRootHash) link.bundle.treeSize
    (link.bundle.catalogPackage.claim.consistencyProof.map digestBytes)).map nodeInput

end CatalogLink

/-- A request carries the state that a history of qualified bundles leaves : the log and the head
of the last one, and the head of its own mission from the last one of that mission. -/
structure Carries (history : List (CatalogLink E)) (request : HeadCatalogRequestV1 E) : Prop where
  log : ∀ last ∈ history.head?, request.priorTreeSize = last.bundle.treeSize ∧
    request.priorLogRootHash = last.bundle.logRootHash
  head : ∀ last ∈ history.head?, request.priorInstanceSequence = last.head.instanceSequence ∧
    request.priorCheckpointId = last.head.checkpoint.checkpointId
  mission : ∀ last ∈ history.find? (fun link => link.head.missionId = request.missionId),
    request.priorMissionEventSeq = last.head.missionEventSeq ∧
      request.priorMissionCheckpointId = last.head.missionCheckpoint.checkpointId

/-- A chain of qualified bundles, the newest first. -/
abbrev CatalogHistory (chain : List (CatalogLink E)) : Prop :=
  History (fun history link => Carries history link.request) chain

/-! ## One link -/

theorem CatalogLink.fused (link : CatalogLink E) :
    ∃ time, CatalogFused link.profile time link.bundle := by
  obtain ⟨time, -, -, -, -, hfused⟩ := qualifyHeadCatalogBundle_spec link.qualified
  exact ⟨time, hfused⟩

theorem CatalogLink.head_projected (link : CatalogLink E) :
    link.head.missionId = link.request.missionId ∧
      link.head.instanceSequence = link.bundle.catalogPackage.claim.instanceSequence ∧
      link.head.checkpoint = link.bundle.catalogPackage.claim.checkpoint ∧
      link.head.missionEventSeq = link.bundle.catalogPackage.claim.missionEventSeq ∧
      link.head.missionCheckpoint = link.bundle.catalogPackage.claim.missionCheckpoint := by
  obtain ⟨time, hfused⟩ := link.fused
  have hprojected := hfused.projected
  simp only [HeadCheckpointFloorV1.projected, projectedFloor,
    HeadCheckpointFloorV1.mk.injEq, and_true] at hprojected
  obtain ⟨-, -, hsequence, hcheckpoint, hmission, hmissionSequence, hmissionCheckpoint⟩ :=
    hprojected
  exact ⟨hmission, hsequence, hcheckpoint, hmissionSequence, hmissionCheckpoint⟩

/-- The head of a link does not go behind the one its request carries. -/
theorem CatalogLink.advances (link : CatalogLink E) :
    link.request.priorTreeSize ≤ link.bundle.treeSize ∧
      link.request.priorInstanceSequence ≤ link.head.instanceSequence ∧
      link.request.priorMissionEventSeq ≤ link.head.missionEventSeq ∧
      (link.head.instanceSequence = link.request.priorInstanceSequence →
        link.head.checkpoint.checkpointId = link.request.priorCheckpointId) ∧
      (link.head.missionEventSeq = link.request.priorMissionEventSeq →
        link.head.missionCheckpoint.checkpointId = link.request.priorMissionCheckpointId) ∧
      (link.bundle.treeSize = link.request.priorTreeSize →
        link.bundle.logRootHash = link.request.priorLogRootHash) := by
  obtain ⟨time, hfused⟩ := link.fused
  obtain ⟨-, hsequence, hcheckpoint, hmissionSequence, hmissionCheckpoint⟩ := link.head_projected
  obtain ⟨hinstance, hmission, hkept, hmissionKept⟩ := requireHeadAdvance_eq_ok.mp hfused.advance
  have hconsistent := hfused.consistent
  simp only [verifyMerkleConsistencyV1, bind_eq_ok, refuseIf_eq_ok, exists_const, not_lt,
    Nat.cast_le] at hconsistent
  obtain ⟨-, -, -, -, -, hsize, hrest⟩ := hconsistent
  rw [hsequence, hcheckpoint, hmissionSequence, hmissionCheckpoint]
  refine ⟨hsize, hinstance, hmission, hkept, hmissionKept, fun hsame => ?_⟩
  have hcast : (link.bundle.catalogRequest.priorTreeSize : ℤ) = link.bundle.treeSize :=
    congrArg Nat.cast hsame.symm
  rw [if_pos hcast, unit_bind_eq_ok, refuseIf_eq_ok, refuseIf_eq_ok] at hrest
  exact digestBytes_inj (not_not.mp hrest.2).symm

/-- The projected head of a link is the last leaf of its log. -/
theorem CatalogLink.included (link : CatalogLink E) : ∃ data,
    catalogProjectionLeafBytesV1 link.profile link.head.missionId link.head = .ok data ∧
      verifyMerkleInclusionV1 (merkleTreeHash E.sha256)
        (digestBytes (E.sha256 (leafInput data))) (link.bundle.treeSize - 1) link.bundle.treeSize
        (link.bundle.catalogPackage.claim.projectionInclusionProof.map digestBytes)
        (digestBytes link.bundle.logRootHash) = .ok () ∧
      link.hashedInclusion = leafInput data :: (inclusionPairs (merkleTreeHash E.sha256)
        (digestBytes (E.sha256 (leafInput data))) (link.bundle.treeSize - 1) link.bundle.treeSize
        (link.bundle.catalogPackage.claim.projectionInclusionProof.map digestBytes)).map
          nodeInput := by
  obtain ⟨time, hfused⟩ := link.fused
  obtain ⟨data, leafHash, hdata, hleafHash, hincluded⟩ := hfused.included
  obtain ⟨-, hreturn⟩ := unit_bind_eq_ok.mp hleafHash
  obtain rfl := Except.ok.inj hreturn
  refine ⟨data, hdata, hincluded, ?_⟩
  rw [hashedInclusion]
  change (match catalogProjectionLeafBytesV1 link.profile link.bundle.externalFloor.missionId
    link.bundle.externalFloor with | .ok data => _ | .error _ => _) = _
  rw [hdata]

/-! ## The whole history -/

/-- What a bundle keeps of an earlier one : it does not shrink the log or go back in the global
sequence, and with the same size or sequence it has the same root or checkpoint. -/
def HeadAdvances (later earlier : CatalogLink E) : Prop :=
  earlier.bundle.treeSize ≤ later.bundle.treeSize ∧
    earlier.head.instanceSequence ≤ later.head.instanceSequence ∧
    (later.bundle.treeSize = earlier.bundle.treeSize →
      later.bundle.logRootHash = earlier.bundle.logRootHash) ∧
    (later.head.instanceSequence = earlier.head.instanceSequence →
      later.head.checkpoint.checkpointId = earlier.head.checkpoint.checkpointId)

/-- What a bundle keeps of an earlier one of its mission. -/
def MissionAdvances (later earlier : CatalogLink E) : Prop :=
  earlier.head.missionEventSeq ≤ later.head.missionEventSeq ∧
    (later.head.missionEventSeq = earlier.head.missionEventSeq →
      later.head.missionCheckpoint.checkpointId = earlier.head.missionCheckpoint.checkpointId)

theorem HeadAdvances.trans {a b c : CatalogLink E} (h : HeadAdvances a b) (h' : HeadAdvances b c) :
    HeadAdvances a c := by
  obtain ⟨hsize, hsequence, hroot, hcheckpoint⟩ := h
  obtain ⟨hsize', hsequence', hroot', hcheckpoint'⟩ := h'
  refine ⟨hsize'.trans hsize, hsequence'.trans hsequence, fun hsame => ?_, fun hsame => ?_⟩
  · exact (hroot (by omega)).trans (hroot' (by omega))
  · exact (hcheckpoint (by omega)).trans (hcheckpoint' (by omega))

theorem MissionAdvances.trans {a b c : CatalogLink E} (h : MissionAdvances a b)
    (h' : MissionAdvances b c) : MissionAdvances a c := by
  obtain ⟨hsequence, hcheckpoint⟩ := h
  obtain ⟨hsequence', hcheckpoint'⟩ := h'
  refine ⟨hsequence'.trans hsequence, fun hsame => ?_⟩
  exact (hcheckpoint (by omega)).trans (hcheckpoint' (by omega))

/-- A bundle whose request carries a history advances on its last one. -/
theorem Carries.advances {history : List (CatalogLink E)} {next : CatalogLink E}
    (h : Carries history next.request) : ∀ last ∈ history.head?, HeadAdvances next last := by
  intro last hlast
  obtain ⟨hsize, hroot⟩ := h.log last hlast
  obtain ⟨hsequence, hcheckpoint⟩ := h.head last hlast
  obtain ⟨hgrows, hinstance, -, hkept, -, hsame⟩ := next.advances
  rw [hsize] at hgrows hsame
  rw [hroot] at hsame
  rw [hsequence] at hinstance hkept
  rw [hcheckpoint] at hkept
  exact ⟨hgrows, hinstance, hsame, hkept⟩

theorem Carries.missionAdvances {history : List (CatalogLink E)} {next : CatalogLink E}
    (h : Carries history next.request) :
    ∀ last ∈ history.find? (fun link => link.head.missionId = next.head.missionId),
      MissionAdvances next last := by
  intro last hlast
  rw [next.head_projected.1] at hlast
  obtain ⟨hsequence, hcheckpoint⟩ := h.mission last hlast
  obtain ⟨-, -, hmission, -, hkept, -⟩ := next.advances
  rw [hsequence] at hmission hkept
  rw [hcheckpoint] at hkept
  exact ⟨hmission, hkept⟩

/-- Two bundles of one size and one root project one head, or their checks collide. -/
theorem CatalogLink.sameHead {a b : CatalogLink E}
    (hsize : a.bundle.treeSize = b.bundle.treeSize)
    (hroot : a.bundle.logRootHash = b.bundle.logRootHash) :
    a.head.projected = b.head.projected ∨
      HashCollision E.sha256 a.hashedInclusion b.hashedInclusion := by
  obtain ⟨data, hdata, hincluded, hhashed⟩ := a.included
  obtain ⟨data', hdata', hincluded', hhashed'⟩ := b.included
  rw [hhashed, hhashed']
  rw [hsize, hroot] at hincluded
  rw [hsize]
  rcases inclusion_collides hincluded hincluded' with hleaf | hcollision
  · by_cases hsame : data = data'
    · subst hsame
      exact Or.inl (catalogProjectionLeafBytes_inj hdata hdata').2
    · exact Or.inr ⟨_, List.mem_cons_self, _, List.mem_cons_self, fun heq =>
        hsame (leafInput_inj heq), digestBytes_inj hleaf⟩
  · exact Or.inr (hcollision.mono (List.subset_cons_self _ _) (List.subset_cons_self _ _))

/-- The log of an earlier bundle is the beginning of any log of a later one, or a check of the
chain collides with the tree of such a beginning. -/
def LogPrefix (chain : List (CatalogLink E)) (later earlier : CatalogLink E) : Prop :=
  ∀ leafHashes : List (List UInt8), (∀ x ∈ leafHashes, x.length = 32) →
    leafHashes.length = later.bundle.treeSize →
    merkleRootV1 (merkleTreeHash E.sha256) leafHashes = digestBytes later.bundle.logRootHash →
    merkleRootV1 (merkleTreeHash E.sha256) (leafHashes.take earlier.bundle.treeSize) =
        digestBytes earlier.bundle.logRootHash ∨
      ∃ link ∈ chain, ∃ n, HashCollision E.sha256 link.hashedConsistency
        ((merkleRootPairs (merkleTreeHash E.sha256) (leafHashes.take n)).map nodeInput)

theorem LogPrefix.trans {chain : List (CatalogLink E)} {a b c : CatalogLink E}
    (hsize : b.bundle.treeSize ≤ a.bundle.treeSize) (hsize' : c.bundle.treeSize ≤ b.bundle.treeSize)
    (h : LogPrefix chain a b) (h' : LogPrefix chain b c) : LogPrefix chain a c := by
  intro leafHashes hleaves hlength hroot
  rcases h leafHashes hleaves hlength hroot with hroot | hcollision
  · have hlength' : (leafHashes.take b.bundle.treeSize).length = b.bundle.treeSize :=
      List.length_take_of_le (hlength ▸ hsize)
    rcases h' _ (fun x hx => hleaves x (List.mem_of_mem_take hx)) hlength' hroot with
      hroot' | ⟨link, hlink, n, hcollision⟩
    · rw [List.take_take, min_eq_left hsize'] at hroot'
      exact Or.inl hroot'
    · rw [List.take_take] at hcollision
      exact Or.inr ⟨link, hlink, _, hcollision⟩
  · exact Or.inr hcollision

/-- The log of the last bundle is the beginning of the log of a bundle that carries it. -/
theorem Carries.logPrefix {history chain : List (CatalogLink E)} {next : CatalogLink E}
    (h : Carries history next.request) (hchain : next ∈ chain) :
    ∀ last ∈ history.head?, LogPrefix chain next last := by
  intro last hlast leafHashes hleaves hlength hroot
  obtain ⟨hsize, hlastRoot⟩ := h.log last hlast
  obtain ⟨time, hfused⟩ := next.fused
  have hconsistent := hfused.consistent
  rw [← hlength, ← hroot] at hconsistent
  rcases consistency_collides hleaves next.request.sized.1 hconsistent with hfirst | hcollision
  · rw [← hsize, ← hlastRoot]
    exact Or.inl hfirst.symm
  · refine Or.inr ⟨next, hchain, leafHashes.length, ?_⟩
    rw [List.take_length, CatalogLink.hashedConsistency, ← hlength]
    exact hcollision

/-! ## The monitors -/

/-- Every monitor of the profile of a link saw the log that its bundle publishes. -/
def CatalogLink.Watched (link : CatalogLink E) : Prop :=
  List.Forall₂ (fun monitor package => package.sourceBinding = monitor ∧
      package.claim.witnessedSourceId = link.bundle.catalogSourceId ∧
      package.claim.logOrigin = link.bundle.logOrigin ∧
      package.claim.treeSize = link.bundle.treeSize ∧
      package.claim.logRootHash = link.bundle.logRootHash)
    (link.profile.bindingsFor .headMonitor) link.bundle.monitorPackages

theorem CatalogLink.watched (link : CatalogLink E) : link.Watched := by
  obtain ⟨time, -, hfiled, hcatalog, hmonitors, hfused⟩ :=
    qualifyHeadCatalogBundle_spec link.qualified
  obtain ⟨-, hclaim⟩ := authenticateLogSource_bound validateCatalogClaim
    link.profile.catalogBinding_spec.1 (hfiled _ List.mem_cons_self) hcatalog
  have horigin := validateCatalogClaim_origin hclaim
  refine List.forall₂_iff_get.mpr ⟨hmonitors.length_eq, fun i hi hi' => ?_⟩
  have hmem := List.get_mem (link.profile.bindingsFor .headMonitor) ⟨i, hi⟩
  obtain ⟨hsource, -⟩ := authenticateLogSource_bound (fun _ => validateMonitorClaim)
    (List.mem_of_mem_filter hmem) (hfiled _ (List.mem_cons_of_mem _ hmem)) (hmonitors.get hi hi')
  obtain ⟨hwitness, hlog, hsize, hroot⟩ :=
    requireWitness_spec (hfused.witnessed _ (List.get_mem link.bundle.monitorPackages ⟨i, hi'⟩))
  exact ⟨hsource, hwitness.trans hfused.catalogSourceId.symm,
    (hlog.trans horigin).trans hfused.logOrigin.symm, hsize.trans hfused.treeSize.symm,
    hroot.trans hfused.logRootHash.symm⟩

/-! ## Non-equivocation -/

theorem LogPrefix.mono {chain chain' : List (CatalogLink E)} {later earlier : CatalogLink E}
    (h : LogPrefix chain later earlier) (hchain : chain ⊆ chain') :
    LogPrefix chain' later earlier := by
  intro leafHashes hleaves hlength hroot
  rcases h leafHashes hleaves hlength hroot with hprefix | ⟨link, hlink, hcollision⟩
  · exact Or.inl hprefix
  · exact Or.inr ⟨link, hchain hlink, hcollision⟩

/-- In a history, every log is the beginning of every later one. -/
theorem logPrefix_pairwise {chain : List (CatalogLink E)} (h : CatalogHistory chain) :
    chain.Pairwise fun later earlier =>
      HeadAdvances later earlier ∧ LogPrefix chain later earlier := by
  induction h with
  | nil => exact List.Pairwise.nil
  | @extend history next hhistory hstep ih =>
    have hlifted := ih.imp fun {a b} hab =>
      And.intro hab.1 (hab.2.mono (List.subset_cons_self next history))
    have hlast : ∀ last ∈ history.head?,
        HeadAdvances next last ∧ LogPrefix (next :: history) next last := fun last hmem =>
      ⟨hstep.advances last hmem, hstep.logPrefix List.mem_cons_self last hmem⟩
    refine List.pairwise_cons.mpr ⟨fun earlier hearlier => ?_, hlifted⟩
    cases history with
    | nil => cases hearlier
    | cons newest older =>
      obtain ⟨hadvances, hprefix⟩ := hlast newest rfl
      rcases List.mem_cons.mp hearlier with rfl | hmem
      · exact ⟨hadvances, hprefix⟩
      · obtain ⟨hadvances', hprefix'⟩ := (List.pairwise_cons.mp hlifted).1 earlier hmem
        exact ⟨hadvances.trans hadvances', hprefix.trans hadvances.1 hadvances'.1 hprefix'⟩

/-- In a history of catalog bundles no bundle goes behind an earlier one, in the size of the log, in
the global sequence or in the sequence of one mission ; a size fixes the root and, up to a
collision, the projected head ; a sequence fixes the checkpoint ; every log is the beginning of
every later one ; and every monitor saw the log that its catalog published. -/
theorem catalog_non_equivocation {chain : List (CatalogLink E)} (h : CatalogHistory chain) :
    (chain.Pairwise fun later earlier =>
      earlier.bundle.treeSize ≤ later.bundle.treeSize ∧
        earlier.head.instanceSequence ≤ later.head.instanceSequence ∧
        (later.head.missionId = earlier.head.missionId →
          earlier.head.missionEventSeq ≤ later.head.missionEventSeq) ∧
        (later.bundle.treeSize = earlier.bundle.treeSize →
          later.bundle.logRootHash = earlier.bundle.logRootHash ∧
            (later.head.projected = earlier.head.projected ∨
              HashCollision E.sha256 later.hashedInclusion earlier.hashedInclusion)) ∧
        (later.head.instanceSequence = earlier.head.instanceSequence →
          later.head.checkpoint.checkpointId = earlier.head.checkpoint.checkpointId) ∧
        (later.head.missionId = earlier.head.missionId →
          later.head.missionEventSeq = earlier.head.missionEventSeq →
          later.head.missionCheckpoint.checkpointId =
            earlier.head.missionCheckpoint.checkpointId) ∧
        LogPrefix chain later earlier) ∧
      ∀ link ∈ chain, link.Watched := by
  have hmission := h.pairwise_keyed (fun link => link.head.missionId) MissionAdvances
    (fun _ _ _ => MissionAdvances.trans) fun _ _ hstep => hstep.missionAdvances
  refine ⟨((logPrefix_pairwise h).and hmission).imp fun {later earlier} hpair => ?_,
    fun link _ => link.watched⟩
  obtain ⟨⟨⟨hsize, hsequence, hroot, hcheckpoint⟩, hprefix⟩, hkeyed⟩ := hpair
  exact ⟨hsize, hsequence, fun hsame => (hkeyed hsame).1,
    fun hsame => ⟨hroot hsame, CatalogLink.sameHead hsame (hroot hsame)⟩, hcheckpoint,
    fun hsame => (hkeyed hsame).2, hprefix⟩

/-! ## A sample -/

def sampleHeadBinding (role : AdapterRole) (sourceId logOrigin : String) (n : ℕ)
    (identity : isAdapterIdentity sourceId = true) (origin : isAdapterIdentity logOrigin = true)
    (supported : role ∈ headAuthorityAdapterRolesV1) : HeadAuthoritySourceBindingV1 :=
  ⟨sourceId, role, logOrigin, ⟨BitVec.ofNat 256 n⟩, sourceId, 7, ⟨identity, origin, identity⟩,
    supported⟩

def sampleAnchorA : HeadAuthoritySourceBindingV1 :=
  sampleHeadBinding .headAnchor "anchor_a" "log_a" 11 (by decide +kernel) (by decide +kernel)
    (by decide)

def sampleAnchorB : HeadAuthoritySourceBindingV1 :=
  sampleHeadBinding .headAnchor "anchor_b" "log_b" 12 (by decide +kernel) (by decide +kernel)
    (by decide)

def sampleCatalogSource : HeadAuthoritySourceBindingV1 :=
  sampleHeadBinding .headCatalog "catalog" "log" 13 (by decide +kernel) (by decide +kernel)
    (by decide)

def sampleMonitorA : HeadAuthoritySourceBindingV1 :=
  sampleHeadBinding .headMonitor "monitor_a" "log" 14 (by decide +kernel) (by decide +kernel)
    (by decide)

def sampleMonitorB : HeadAuthoritySourceBindingV1 :=
  sampleHeadBinding .headMonitor "monitor_b" "log" 15 (by decide +kernel) (by decide +kernel)
    (by decide)

def sampleHeadBindings : List HeadAuthoritySourceBindingV1 :=
  [sampleAnchorA, sampleAnchorB, sampleCatalogSource, sampleMonitorA, sampleMonitorB]

def sampleHeadStore : AdapterTrustStoreV1 where
  keys := sampleHeadBindings.map fun b => ⟨b.sourceId, b.principalId, b.role, b.keyId.digest⟩
  revokedKeyIds := []

def sampleHeadProfile : HeadAuthorityTrustProfileV1 sampleAdapterEnv where
  serviceInstanceId := "service"
  environmentId := "fixture"
  validationPolicy := samplePolicy
  trustStore := sampleHeadStore
  sourceBindings := sampleHeadBindings
  maxHeadStalenessSeconds := 40
  service := by decide +kernel
  environment := by decide +kernel
  staleness := by decide
  bounded := ⟨by simp [sampleHeadBindings], by decide⟩
  sorted := by decide +kernel
  independent := by decide +kernel
  exactKeys := by decide +kernel
  matched := by decide +kernel
  anchors := by decide
  origins := by decide +kernel
  catalogs := by decide
  monitors := by decide
  watched := by decide +kernel

/-- The heads of the sample log : the genesis, and its first checkpoint. -/
inductive SampleHead
  | genesis
  | first

namespace SampleHead

/-- The size of the log whose last leaf projects the head. -/
def size : SampleHead → ℕ
  | genesis => 1
  | first => 2

def sequence : SampleHead → ℤ
  | genesis => -1
  | first => 0

def checkpoint : SampleHead → CheckpointRef
  | genesis => ⟨7, none, none, none⟩
  | first => ⟨27, some 35, some "checker", some 26⟩

def floor (head : SampleHead) (evidence : List EvidenceReferenceV1) : HeadCheckpointFloorV1 :=
  ⟨"service", "fixture", head.sequence, head.checkpoint, 11, head.sequence, head.checkpoint,
    evidence⟩

/-- The bytes of the leaf that projects the head. -/
def leaf (head : SampleHead) : ByteArray :=
  encoded (catalogProjection sampleHeadProfile 11 (head.floor []))

def leafHash (head : SampleHead) : Digest := sampleAdapterEnv.sha256 (leafInput head.leaf)

theorem leafHash_eq (head : SampleHead) :
    head.leafHash = sampleAdapterEnv.sha256 (leafInput head.leaf) := rfl

attribute [irreducible] leafHash

/-- The root of the log whose last leaf projects the head. -/
def root : SampleHead → Digest
  | genesis => genesis.leafHash
  | first => sampleAdapterEnv.sha256
      (nodeInput (digestBytes genesis.leafHash, digestBytes first.leafHash))

theorem root_genesis : genesis.root = genesis.leafHash := rfl

theorem digestBytes_root_first : digestBytes first.root =
    (merkleTreeHash sampleAdapterEnv.sha256).node (digestBytes genesis.leafHash)
      (digestBytes first.leafHash) := rfl

attribute [irreducible] root

/-- The proof that the leaf of the head is the last one. -/
def inclusion : SampleHead → List Digest
  | genesis => []
  | first => [genesis.leafHash]

/-- The proof that the log of a head begins with the one of `prior`. -/
def consistency : (prior head : SampleHead) → List Digest
  | genesis, first => [first.leafHash]
  | _, _ => []

variable (head : SampleHead)

theorem sized : 1 ≤ head.size ∧ head.size ≤ maxHeadTreeSizeV1 := by
  cases head <;> decide

theorem isHeadSequence : IsHeadSequence head.sequence := by
  cases head <;> decide

theorem atGenesis : (head.sequence = -1 ↔ head.checkpoint.checkpointId =
      headCheckpointGenesisId sampleAdapterEnv "service" "fixture") ∧
    (head.sequence = -1 ↔ head.checkpoint.checkpointId =
      missionCheckpointGenesisId sampleAdapterEnv "service" "fixture" 11) := by
  cases head <;> decide

theorem principal : ∀ value ∈ head.checkpoint.principalId, isAdapterIdentity value = true := by
  cases head <;> decide +kernel

theorem length_proofs (prior : SampleHead) :
    (consistency prior head).length ≤ 1 ∧ head.inclusion.length ≤ 1 := by
  cases prior <;> cases head <;> simp [consistency, inclusion]

/-- The leaf of the head is the last one of its log. -/
theorem included :
    verifyMerkleInclusionV1 (merkleTreeHash sampleAdapterEnv.sha256) (digestBytes head.leafHash)
      ((head.size : ℕ) - 1) (head.size : ℕ) (head.inclusion.map digestBytes)
      (digestBytes head.root) = .ok () := by
  rw [verifyMerkleInclusionV1_eq_ok]
  refine ⟨length_digestBytes _, length_digestBytes _, ?_⟩
  cases head with
  | genesis => simp [size, inclusion, sides, ascend, root_genesis, maxHeadProofNodesV1]
  | first =>
    simp [size, inclusion, sides, ascend, Side.order, digestBytes_root_first, length_digestBytes,
      maxHeadProofNodesV1]

/-- A log that grows, or stays, begins with the one it carries. -/
theorem consistent {prior head : SampleHead} (h : prior.size ≤ head.size) :
    verifyMerkleConsistencyV1 (merkleTreeHash sampleAdapterEnv.sha256) (prior.size : ℕ)
      (digestBytes prior.root) (head.size : ℕ) (digestBytes head.root)
      ((consistency prior head).map digestBytes) = .ok () := by
  match prior, head with
  | genesis, genesis => exact verifyMerkleConsistency_self _ (length_digestBytes _) (by decide)
  | first, first => exact verifyMerkleConsistency_self _ (length_digestBytes _) (by decide)
  | first, genesis => exact absurd h (by decide)
  | genesis, first =>
    have hgrown := @verifyMerkleConsistencyV1_grown (merkleTreeHash sampleAdapterEnv.sha256) 0 0
      (digestBytes genesis.root) (digestBytes first.root) 2 [digestBytes first.leafHash]
      (by decide)
    refine hgrown.mpr ⟨length_digestBytes _, length_digestBytes _, by decide,
      digestBytes genesis.root, [digestBytes first.leafHash], rfl, ?_, ?_, ?_, ?_⟩
    · simp [length_digestBytes]
    · simp [sides]
    · simp [sides, leftNodes, ascendLeft]
    · simp [sides, ascend, Side.order, root_genesis, digestBytes_root_first]

/-- A head that follows has a sequence that is not behind, and keeps the checkpoint of an equal
one. -/
theorem advances {prior head : SampleHead} (h : prior.size ≤ head.size) :
    prior.sequence ≤ head.sequence ∧ (head.sequence = prior.sequence →
      head.checkpoint.checkpointId = prior.checkpoint.checkpointId) := by
  cases prior <;> cases head <;> revert h <;> decide

/-- The bytes of the leaf are the projection of the head. -/
theorem leaf_projects (evidence : List EvidenceReferenceV1) :
    catalogProjectionLeafBytesV1 sampleHeadProfile 11 (head.floor evidence) = .ok head.leaf ∧
      head.leaf.size ≠ 0 := by
  have hdigest : Admitted sampleAdapterEnv.nfc 2
      (.str (contentIdText head.checkpoint.checkpointId)) :=
    admitted_contentIdText (by decide) _
  have hhead : Admitted sampleAdapterEnv.nfc 1 (.obj
      [("checkpoint_attestation_id", optionalId head.checkpoint.attestationId),
        ("checkpoint_id", .str (contentIdText head.checkpoint.checkpointId)),
        ("checkpoint_principal_id", head.checkpoint.principalId.elim .null .str),
        ("checkpoint_trust_snapshot_id", optionalId head.checkpoint.trustSnapshotId),
        ("instance_sequence", .int head.sequence),
        ("mission_checkpoint_attestation_id", optionalId head.checkpoint.attestationId),
        ("mission_checkpoint_id", .str (contentIdText head.checkpoint.checkpointId)),
        ("mission_checkpoint_principal_id", head.checkpoint.principalId.elim .null .str),
        ("mission_checkpoint_trust_snapshot_id", optionalId head.checkpoint.trustSnapshotId),
        ("mission_event_seq", .int head.sequence)]) := by
    refine admitted_record (by decide +kernel : PlainFields ["checkpoint_attestation_id",
      "checkpoint_id", "checkpoint_principal_id", "checkpoint_trust_snapshot_id",
      "instance_sequence", "mission_checkpoint_attestation_id", "mission_checkpoint_id",
      "mission_checkpoint_principal_id", "mission_checkpoint_trust_snapshot_id",
      "mission_event_seq"]) rfl (by decide) ?_
    simp only [List.forall_mem_cons, List.not_mem_nil, false_imp_iff, implies_true, and_true]
    have hoptional (id : Option Digest) : Admitted sampleAdapterEnv.nfc 2 (optionalId id) :=
      admitted_optionalId (by decide) id
    have hprincipal : Admitted sampleAdapterEnv.nfc 2
        (head.checkpoint.principalId.elim .null .str) :=
      admitted_optionalIdentity (by decide) head.principal
    have hsequence : Admitted sampleAdapterEnv.nfc 2 (.int head.sequence) :=
      admitted_headSequence (by decide) head.isHeadSequence
    exact ⟨hoptional _, hdigest, hprincipal, hoptional _, hsequence, hoptional _, hdigest,
      hprincipal, hoptional _, hsequence⟩
  have hleaf : Admitted sampleAdapterEnv.nfc 0
      (catalogProjection sampleHeadProfile 11 (head.floor [])) := by
    refine admitted_record (by decide +kernel : PlainFields ["environment_id", "head",
      "leaf_schema", "log_origin", "mission_id", "profile_id", "service_instance_id",
      "source_id"]) rfl (by decide) ?_
    simp only [List.forall_mem_cons, List.not_mem_nil, false_imp_iff, implies_true, and_true]
    exact ⟨admitted_identity (by decide) sampleHeadProfile.environment, hhead,
      .str (by decide) (validString_of_ascii (by decide +kernel) (by decide +kernel)),
      admitted_identity (by decide) sampleHeadProfile.catalogBinding.identities.2.1,
      admitted_contentIdText (by decide) _, admitted_contentIdText (by decide) _,
      admitted_identity (by decide) sampleHeadProfile.service,
      admitted_identity (by decide) sampleHeadProfile.catalogBinding.identities.1⟩
  have hsmall : nodes (catalogProjection sampleHeadProfile 11 (head.floor [])) ≤ maxTotalNodes ∧
      weight (catalogProjection sampleHeadProfile 11 (head.floor [])) ≤ maxWireBytes := by
    cases head <;> decide +kernel
  obtain ⟨hdumps, -⟩ := canonicalDumps_weight (normalized_of_admitted hleaf hsmall.1) hsmall.2
  constructor
  · rw [catalogProjectionLeafBytesV1,
      refuseIf_bind_of_not (by rintro (h | h | h) <;> exact h rfl), canonicalRecordBytes,
      mapError_eq_ok]
    exact hdumps
  · rw [leaf, size_encoded, catalogProjection, textSize_dumps_obj]
    omega

end SampleHead

theorem sampleRequest_interval : 100 ≤ 130 := by decide

/-- A request to a source of the log, which carries the log of a head. -/
def sampleCatalogRequest (prior : SampleHead) (sourceId : String) (role : AdapterRole)
    (supported : role ∈ [AdapterRole.headCatalog, AdapterRole.headMonitor]) :
    HeadCatalogRequestV1 sampleAdapterEnv where
  profileId := 7
  trustRootId := 7
  serviceInstanceId := "service"
  environmentId := "fixture"
  missionId := 11
  authorityId := 12
  targetId := 13
  eventDigest := 14
  transitionIntentId := 15
  sourceId := sourceId
  timeBundleId := 7
  timeLowerBound := 100
  timeUpperBound := 130
  timeEvidence := sampleTimeEvidence
  requestNonce := 18
  interval := sampleRequest_interval
  references := by decide +kernel
  evidenceRole := role
  priorTreeSize := prior.size
  priorLogRootHash := prior.root
  priorInstanceSequence := prior.sequence
  priorCheckpointId := prior.checkpoint.checkpointId
  priorMissionEventSeq := prior.sequence
  priorMissionCheckpointId := prior.checkpoint.checkpointId
  supported := supported
  sized := prior.sized
  sequences := ⟨prior.isHeadSequence, prior.isHeadSequence⟩
  genesis := prior.atGenesis
  ordered := le_refl prior.sequence

def sampleCatalogClaim (prior head : SampleHead) : HeadCatalogClaim :=
  ⟨"log", head.root, head.size, 90, SampleHead.consistency prior head, head.inclusion,
    head.sequence, head.sequence, head.checkpoint, head.checkpoint⟩

theorem sampleCatalogClaim_wellFormed (prior head : SampleHead) :
    (sampleCatalogClaim prior head).WellFormed := by
  obtain ⟨hconsistency, hinclusion⟩ := head.length_proofs prior
  exact ⟨head.sized, Nat.le_of_ble_eq_true rfl, hconsistency.trans (by decide),
    hinclusion.trans (by decide),
    head.isHeadSequence, head.isHeadSequence, head.principal, head.principal⟩

def sampleMonitorClaim (head : SampleHead) : HeadMonitorClaim :=
  ⟨"log", head.root, head.size, 95, "catalog"⟩

/-- The authenticated package of a source of the log whose wire is known. -/
def sampleHeadPackage {κ : Type} (binding : HeadAuthoritySourceBindingV1)
    (request : HeadCatalogRequestV1 sampleAdapterEnv) (claim : List (String × Json)) (claimed : κ)
    (wire : ByteArray) :
    AuthenticatedHeadEvidencePackageV1 (HeadCatalogRequestV1 sampleAdapterEnv) κ where
  profileId := 7
  request := request
  signedEvidence := signedHeadAnswer sampleHeadProfile binding request.frame claim sampleSignature
  statement := headAnswer sampleHeadProfile binding request.frame claim
  sourceBinding := binding
  providerEvidence := ⟨request.evidenceRole.evidenceKind, binding.sourceId, binding.keyId.digest,
    wire.data.toList⟩
  claim := claimed

theorem sampleHeadPackage_content {κ : Type} (binding : HeadAuthoritySourceBindingV1)
    (request : HeadCatalogRequestV1 sampleAdapterEnv) (claim : List (String × Json)) (claimed : κ)
    (wire : ByteArray) :
    (sampleHeadPackage binding request claim claimed wire).providerEvidence.content.length =
      wire.size := by
  rw [sampleHeadPackage, Array.length_toList, ByteArray.size_data]

/-- A sample source of the log that signs a valid claim is authenticated. -/
theorem sampleHeadPackage_authenticated {κ : Type} (prior : SampleHead)
    {binding : HeadAuthoritySourceBindingV1}
    (supported : binding.role ∈ [AdapterRole.headCatalog, AdapterRole.headMonitor])
    {validateClaim : HeadAuthoritySourceBindingV1 → List (String × Json) → Except AdapterError κ}
    {claim : List (String × Json)} {claimed : κ} (hbinding : binding ∈ sampleHeadBindings)
    (hclaim : Admitted sampleAdapterEnv.nfc 1 (.obj claim) ∧ nodes (.obj claim) ≤ 1000 ∧
      weight (.obj claim) ≤ 20000) (hclaimed : validateClaim binding claim = .ok claimed) :
    ∃ wire : ByteArray, wire.size ≤ maxProviderEvidenceBlobBytesV1 ∧
      let request := sampleCatalogRequest prior binding.sourceId binding.role supported
      authenticateHeadEvidenceV1 sampleHeadProfile request.frame validateClaim request
        (signedHeadAnswer sampleHeadProfile binding request.frame claim sampleSignature) =
          .ok (sampleHeadPackage binding request claim claimed wire) := by
  obtain ⟨key, hkey, -⟩ := sampleHeadProfile.matched binding hbinding
  obtain ⟨hadmitted, hnodes, hweight⟩ := hclaim
  obtain ⟨wire, hwire, hlong, hbounded, hauthentic⟩ := authenticate_signedHeadAnswer
    (sampleCatalogRequest prior binding.sourceId binding.role supported).frame
    (sampleCatalogRequest prior binding.sourceId binding.role supported) rfl rfl
    (HeadAuthorityTrustProfileV1.bindingFor_eq_ok.mpr ⟨hbinding, rfl, rfl⟩)
    (by simp [sampleHeadProfile, sampleHeadStore]) hkey (decide_eq_true rfl) hadmitted hnodes
    hweight hclaimed (by decide)
  have hlength := length_keyIdText binding.keyId
  refine ⟨wire, hbounded, hauthentic.trans ?_⟩
  rw [sampleHeadPackage, show sampleAdapterEnv.sha256 wire = binding.keyId.digest from
    sampleSha256_wire rfl hwire (by omega)]
  rfl

theorem sampleSource_supported :
    (AdapterRole.headCatalog ∈ [AdapterRole.headCatalog, AdapterRole.headMonitor]) ∧
      AdapterRole.headMonitor ∈ [AdapterRole.headCatalog, AdapterRole.headMonitor] := by
  decide

def sampleCatalogRequests (prior : SampleHead) :
    List (String × HeadCatalogRequestV1 sampleAdapterEnv) :=
  [("catalog", sampleCatalogRequest prior "catalog" .headCatalog sampleSource_supported.1),
    ("monitor_a", sampleCatalogRequest prior "monitor_a" .headMonitor sampleSource_supported.2),
    ("monitor_b", sampleCatalogRequest prior "monitor_b" .headMonitor sampleSource_supported.2)]

def sampleCatalogPackage (prior head : SampleHead) (wire : ByteArray) :
    CatalogPackage sampleAdapterEnv :=
  sampleHeadPackage sampleCatalogSource
    (sampleCatalogRequest prior "catalog" .headCatalog sampleSource_supported.1)
    ((sampleCatalogClaim prior head).toBody 11) (sampleCatalogClaim prior head) wire

def sampleMonitorPackage (prior head : SampleHead) (binding : HeadAuthoritySourceBindingV1)
    (wire : ByteArray) : MonitorPackage sampleAdapterEnv :=
  sampleHeadPackage binding
    (sampleCatalogRequest prior binding.sourceId .headMonitor sampleSource_supported.2)
    (sampleMonitorClaim head).toBody (sampleMonitorClaim head) wire

/-- The sources of the log agree, on a log that grows or stays. -/
theorem sampleLog_fused {prior head : SampleHead} (hgrows : prior.size ≤ head.size)
    {wireA wireB catalog monitorA monitorB : ByteArray}
    (hcatalog : catalog.size ≤ maxProviderEvidenceBlobBytesV1)
    (hmonitorA : monitorA.size ≤ maxProviderEvidenceBlobBytesV1)
    (hmonitorB : monitorB.size ≤ maxProviderEvidenceBlobBytesV1) :
    ∃ bundle, fuseHeadSources sampleHeadProfile (sampleTimeBundle wireA wireB)
      (sampleCatalogPackage prior head catalog)
      [sampleMonitorPackage prior head sampleMonitorA monitorA,
        sampleMonitorPackage prior head sampleMonitorB monitorB] = .ok bundle := by
  let evidence : List EvidenceReferenceV1 := [⟨.externalFloor, "catalog", 13⟩,
    ⟨.externalFloor, "monitor_a", 14⟩, ⟨.externalFloor, "monitor_b", 15⟩]
  have hfresh (observedAt : ℕ) (hbefore : observedAt ≤ 100) (hstale : 130 - observedAt ≤ 40)
      (name : String) :
      requireFreshHead observedAt (sampleTimeBundle wireA wireB) 40 name = .ok () :=
    unit_bind_eq_ok.mpr ⟨refuseIf_eq_ok.mpr (Nat.not_lt.mpr hbefore),
      refuseIf_eq_ok.mpr (Nat.not_lt.mpr hstale)⟩
  have hadvance : requireHeadAdvance
      (sampleCatalogRequest prior "catalog" .headCatalog sampleSource_supported.1)
      (sampleCatalogClaim prior head) = .ok () := by
    obtain ⟨hsequence, hkept⟩ := SampleHead.advances hgrows
    exact requireHeadAdvance_eq_ok.mpr ⟨hsequence, hsequence, hkept, hkept⟩
  have hwitness (binding : HeadAuthoritySourceBindingV1) (wire : ByteArray) :
      requireWitness sampleHeadProfile (sampleTimeBundle wireA wireB)
        (sampleCatalogClaim prior head) (sampleMonitorPackage prior head binding wire) = .ok () :=
    unit_bind_eq_ok.mpr ⟨refuseIf_eq_ok.mpr (not_not.mpr rfl), unit_bind_eq_ok.mpr
      ⟨refuseIf_eq_ok.mpr (by rintro (h | h | h) <;> exact h rfl),
        hfresh 95 (by decide) (by decide) _⟩⟩
  have hbounded : requireBoundedEvidence
      [(sampleCatalogPackage prior head catalog).providerEvidence,
      (sampleMonitorPackage prior head sampleMonitorA monitorA).providerEvidence,
      (sampleMonitorPackage prior head sampleMonitorB monitorB).providerEvidence] = .ok () := by
    refine refuseIf_eq_ok.mpr (not_lt.mpr (evidenceBytes_le (by decide : 3 ≤ 16) ?_))
    simp only [List.forall_mem_cons, List.not_mem_nil, false_imp_iff, implies_true, and_true]
    exact ⟨(sampleHeadPackage_content _ _ _ _ catalog).trans_le hcatalog,
      (sampleHeadPackage_content _ _ _ _ monitorA).trans_le hmonitorA,
      (sampleHeadPackage_content _ _ _ _ monitorB).trans_le hmonitorB⟩
  have hsorted : sortedReferences evidence .externalFloor 2 = .ok evidence := by
    have hordered : (evidence.mergeSort fun a b => ¬b.Before a) = evidence :=
      List.mergeSort_of_pairwise (by decide +kernel)
    rw [sortedReferences, refuseIf_bind_of_not (by decide)]
    simp only [hordered]
    rw [refuseIf_bind_of_not (by decide), refuseIf_bind_of_not (by decide +kernel)]
    rfl
  have hadmissible : (head.floor evidence).Admissible sampleAdapterEnv := by
    cases head <;> decide +kernel
  obtain ⟨hleaf, hne⟩ := head.leaf_projects evidence
  have hleafHash : merkleLeafHashV1 sampleAdapterEnv head.leaf = .ok head.leafHash :=
    (merkleLeafHash_eq hne).trans (congrArg _ head.leafHash_eq.symm)
  have hwitnessed : [sampleMonitorPackage prior head sampleMonitorA monitorA,
      sampleMonitorPackage prior head sampleMonitorB monitorB].forM (requireWitness
        sampleHeadProfile (sampleTimeBundle wireA wireB) (sampleCatalogClaim prior head)) =
          .ok () := by
    refine forM_eq_ok.mpr fun package hpackage => ?_
    simp only [List.mem_cons, List.not_mem_nil, or_false] at hpackage
    rcases hpackage with rfl | rfl
    · exact hwitness sampleMonitorA monitorA
    · exact hwitness sampleMonitorB monitorB
  exact fuseHeadSources_of (SampleHead.consistent hgrows) (hfresh 90 (by decide) (by decide) _)
    hadvance hwitnessed hbounded hsorted hadmissible hleaf hleafHash head.included

theorem sampleCatalogRequest_shared (prior : SampleHead) {sourceId sourceId' : String}
    {role role' : AdapterRole}
    (supported : role ∈ [AdapterRole.headCatalog, AdapterRole.headMonitor])
    (supported' : role' ∈ [AdapterRole.headCatalog, AdapterRole.headMonitor]) :
    ∀ shared ∈ sharedCatalogFields, shared.2 (sampleCatalogRequest prior sourceId role supported)
      (sampleCatalogRequest prior sourceId' role' supported') = true := by
  simp [sharedCatalogFields, sharedScopeFields, sharing, sampleCatalogRequest]

theorem sampleCatalogRequest_bindsTime (prior : SampleHead) (wireA wireB : ByteArray)
    (sourceId : String) {role : AdapterRole}
    (supported : role ∈ [AdapterRole.headCatalog, AdapterRole.headMonitor]) :
    (sampleCatalogRequest prior sourceId role supported).BindsTime sampleAdapterEnv
      (sampleTimeBundle wireA wireB) :=
  ⟨rfl, rfl, rfl, rfl, rfl, rfl, rfl, rfl, rfl, rfl, rfl⟩

/-- The catalog and both monitors are authenticated on every request. -/
theorem sampleLog_authenticated (prior head : SampleHead) :
    ∃ catalog monitorA monitorB : ByteArray,
      (catalog.size ≤ maxProviderEvidenceBlobBytesV1 ∧
        monitorA.size ≤ maxProviderEvidenceBlobBytesV1 ∧
        monitorB.size ≤ maxProviderEvidenceBlobBytesV1) ∧
      authenticateCatalogEvidence sampleHeadProfile
        (sampleCatalogRequest prior "catalog" .headCatalog sampleSource_supported.1)
        (sampleCatalogPackage prior head catalog).signedEvidence =
          .ok (sampleCatalogPackage prior head catalog) ∧
      authenticateMonitorEvidence sampleHeadProfile
        (sampleCatalogRequest prior "monitor_a" .headMonitor sampleSource_supported.2)
        (sampleMonitorPackage prior head sampleMonitorA monitorA).signedEvidence =
          .ok (sampleMonitorPackage prior head sampleMonitorA monitorA) ∧
      authenticateMonitorEvidence sampleHeadProfile
        (sampleCatalogRequest prior "monitor_b" .headMonitor sampleSource_supported.2)
        (sampleMonitorPackage prior head sampleMonitorB monitorB).signedEvidence =
          .ok (sampleMonitorPackage prior head sampleMonitorB monitorB) := by
  obtain ⟨hcatalogRole, hmonitorRole⟩ := sampleSource_supported
  obtain ⟨hconsistency, hinclusion⟩ := head.length_proofs prior
  have hidentity : isAdapterIdentity "catalog" = true ∧ isAdapterIdentity "log" = true := by
    decide +kernel
  have hobserved : (95 : ℕ) ≤ maxAdapterEpoch := by decide
  have hmonitorSmall : Admitted sampleAdapterEnv.nfc 1 (.obj (sampleMonitorClaim head).toBody) ∧
      nodes (.obj (sampleMonitorClaim head).toBody) ≤ 1000 ∧
      weight (.obj (sampleMonitorClaim head).toBody) ≤ 20000 :=
    HeadMonitorClaim.toBody_small head.sized.2 hobserved hidentity.1 hidentity.2
  have hmonitorRead {binding : HeadAuthoritySourceBindingV1}
      (horigin : "log" = binding.logOrigin) : validateMonitorClaim binding
        (sampleMonitorClaim head).toBody = .ok (sampleMonitorClaim head) :=
    validateMonitorClaim_toBody head.sized hobserved hidentity.1 horigin
  obtain ⟨catalog, hsize, hcatalog⟩ := sampleHeadPackage_authenticated prior
    (show sampleCatalogSource.role ∈ _ from hcatalogRole) (by simp [sampleHeadBindings])
    (HeadCatalogClaim.toBody_small (sampleCatalogClaim_wellFormed prior head) hidentity.2
      hconsistency hinclusion 11)
    (validateCatalogClaim_toBody (sampleCatalogRequest prior "catalog" .headCatalog hcatalogRole)
      (sampleCatalogClaim_wellFormed prior head) rfl)
  obtain ⟨monitorA, hsizeA, hmonitorA⟩ := sampleHeadPackage_authenticated prior
    (show sampleMonitorA.role ∈ _ from hmonitorRole) (by simp [sampleHeadBindings])
    hmonitorSmall (hmonitorRead rfl)
  obtain ⟨monitorB, hsizeB, hmonitorB⟩ := sampleHeadPackage_authenticated prior
    (show sampleMonitorB.role ∈ _ from hmonitorRole) (by simp [sampleHeadBindings])
    hmonitorSmall (hmonitorRead rfl)
  exact ⟨catalog, monitorA, monitorB, ⟨hsize, hsizeA, hsizeB⟩, hcatalog, hmonitorA, hmonitorB⟩

/-- The roster of the sample profile : its catalog and its monitors. -/
theorem sampleHeadProfile_roster : sampleHeadProfile.catalogBinding = sampleCatalogSource ∧
    sampleHeadProfile.bindingsFor .headMonitor = [sampleMonitorA, sampleMonitorB] ∧
    sampleHeadProfile.catalogRoster = [sampleCatalogSource, sampleMonitorA, sampleMonitorB] := by
  have hcatalog : sampleHeadProfile.catalogBinding = sampleCatalogSource := by decide +kernel
  have hmonitors : sampleHeadProfile.bindingsFor .headMonitor =
      [sampleMonitorA, sampleMonitorB] := by
    decide +kernel
  refine ⟨hcatalog, hmonitors, ?_⟩
  rw [HeadAuthorityTrustProfileV1.catalogRoster, hcatalog, hmonitors]

/-- The catalog and its monitors qualify, for a log that grows from the one it carries or stays. -/
theorem sampleCatalog_qualified {prior head : SampleHead} (hgrows : prior.size ≤ head.size) :
    ∃ wireA wireB catalog monitors requests signedEvidence bundle,
      qualifyHeadCatalogBundleV1 sampleHeadProfile sampleAdapterProfile
        (sampleTimeBundle wireA wireB) requests signedEvidence = .ok bundle ∧
      fuseHeadSources sampleHeadProfile (sampleTimeBundle wireA wireB)
        (sampleCatalogPackage prior head catalog) monitors = .ok bundle := by
  obtain ⟨wireA, wireB, timeRequests, timeEvidence, htime⟩ := sampleTimeBundle_qualified
  obtain ⟨hcatalogRole, hmonitorRole⟩ := sampleSource_supported
  obtain ⟨catalog, monitorA, monitorB, ⟨hsize, hsizeA, hsizeB⟩, hanswer, hanswerA, hanswerB⟩ :=
    sampleLog_authenticated prior head
  obtain ⟨bundle, hfused⟩ := @sampleLog_fused prior head hgrows wireA wireB _ _ _ hsize hsizeA
    hsizeB
  let signed : List (String × SignedEvidenceV1) :=
    [("catalog", (sampleCatalogPackage prior head catalog).signedEvidence),
      ("monitor_a", (sampleMonitorPackage prior head sampleMonitorA monitorA).signedEvidence),
      ("monitor_b", (sampleMonitorPackage prior head sampleMonitorB monitorB).signedEvidence)]
  obtain ⟨hcatalogBinding, hmonitors, hroster⟩ := sampleHeadProfile_roster
  have hsources : sampleHeadProfile.catalogRoster.map (·.sourceId) =
      ["catalog", "monitor_a", "monitor_b"] := by
    rw [hroster]
    rfl
  have hnodup : ["catalog", "monitor_a", "monitor_b"].Nodup := by decide
  obtain ⟨hrequestsExact, hrequests⟩ := sourceMap_roster Prod.snd hnodup
    (rfl : (sampleCatalogRequests prior).map Prod.fst = _) "head_catalog_requests"
  obtain ⟨hsignedExact, hsigned⟩ := sourceMap_roster Prod.snd hnodup
    (rfl : signed.map Prod.fst = _) "head_catalog_evidence"
  generalize sourceMap ((sampleCatalogRequests prior).map fun v => (v.1, v.2)) = requests
    at hrequestsExact hrequests
  generalize sourceMap (signed.map fun v => (v.1, v.2)) = evidence at hsignedExact hsigned
  simp only [sampleCatalogRequests, signed, List.forall_mem_cons, List.not_mem_nil, false_imp_iff,
    implies_true, and_true] at hrequests hsigned
  obtain ⟨hrequest, hrequestA, hrequestB⟩ := hrequests
  obtain ⟨hevidence, hevidenceA, hevidenceB⟩ := hsigned
  have hfiled : sampleHeadProfile.catalogRoster.forM (requireFiled requests) = .ok () := by
    rw [hroster, forM_eq_ok]
    simp only [List.forall_mem_cons, List.not_mem_nil, false_imp_iff, implies_true, and_true]
    exact ⟨requireFiled_of hrequest rfl rfl, requireFiled_of hrequestA rfl rfl,
      requireFiled_of hrequestB rfl rfl⟩
  have htuple : (sampleHeadProfile.catalogRoster.map (·.sourceId)).mapM (item requests) =
      .ok [sampleCatalogRequest prior "catalog" .headCatalog hcatalogRole,
        sampleCatalogRequest prior "monitor_a" .headMonitor hmonitorRole,
        sampleCatalogRequest prior "monitor_b" .headMonitor hmonitorRole] := by
    rw [hsources]
    exact mapM_eq_ok.mpr (.cons hrequest (.cons hrequestA (.cons hrequestB .nil)))
  have hshared : requireSharedScope sharedCatalogFields
      [sampleCatalogRequest prior "catalog" .headCatalog hcatalogRole,
        sampleCatalogRequest prior "monitor_a" .headMonitor hmonitorRole,
        sampleCatalogRequest prior "monitor_b" .headMonitor hmonitorRole] = .ok () := by
    refine requireSharedScope_of fun request hmem => ?_
    rcases List.mem_cons.mp hmem with rfl | hmem
    · exact sampleCatalogRequest_shared prior _ _
    · obtain rfl := List.mem_singleton.mp hmem
      exact sampleCatalogRequest_shared prior _ _
  have hsource : authenticateLogSource authenticateCatalogEvidence sampleHeadProfile
      (sampleTimeBundle wireA wireB) requests evidence sampleHeadProfile.catalogBinding =
        .ok (sampleCatalogPackage prior head catalog) := by
    rw [hcatalogBinding]
    exact authenticateLogSource_of hrequest hevidence hanswer
      (sampleCatalogRequest_bindsTime prior wireA wireB _ hcatalogRole)
  have hsources : (sampleHeadProfile.bindingsFor .headMonitor).mapM (authenticateLogSource
      authenticateMonitorEvidence sampleHeadProfile (sampleTimeBundle wireA wireB) requests
        evidence) = .ok [sampleMonitorPackage prior head sampleMonitorA monitorA,
          sampleMonitorPackage prior head sampleMonitorB monitorB] := by
    rw [hmonitors]
    refine mapM_eq_ok.mpr (.cons ?_ (.cons ?_ .nil))
    · exact authenticateLogSource_of hrequestA hevidenceA hanswerA
        (sampleCatalogRequest_bindsTime prior wireA wireB _ hmonitorRole)
    · exact authenticateLogSource_of hrequestB hevidenceB hanswerB
        (sampleCatalogRequest_bindsTime prior wireA wireB _ hmonitorRole)
  exact ⟨wireA, wireB, catalog, _, requests, evidence, bundle,
    qualifyHeadCatalogBundle_of (reauthenticateTimeBundle_again htime)
      (hroster ▸ exactHeadSourceMapping_of hrequestsExact)
      (hroster ▸ exactHeadSourceMapping_of hsignedExact) hfiled htuple hshared hsource hsources
      hfused, hfused⟩

/-- The bundle of a log that grew rebuilds itself. -/
theorem reauthenticateHeadCatalogBundle_again_sample : ∃ wireA wireB requests signedEvidence bundle,
    qualifyHeadCatalogBundleV1 sampleHeadProfile sampleAdapterProfile (sampleTimeBundle wireA wireB)
      requests signedEvidence = .ok bundle ∧
    reauthenticateHeadCatalogBundleV1 sampleHeadProfile sampleAdapterProfile
      (sampleTimeBundle wireA wireB) bundle = .ok bundle := by
  obtain ⟨wireA, wireB, -, -, requests, signedEvidence, bundle, hqualified, -⟩ :=
    @sampleCatalog_qualified .genesis .first (by decide)
  exact ⟨wireA, wireB, requests, signedEvidence, bundle, hqualified,
    reauthenticateHeadCatalogBundle_again hqualified⟩

/-- A link whose request carries the log of one sample head, for the log of another. -/
structure SampleLink (prior head : SampleHead) (link : CatalogLink sampleAdapterEnv) : Prop where
  request : ∃ sourceId role supported,
    link.request = sampleCatalogRequest prior sourceId role supported
  claim : link.bundle.catalogPackage.claim = sampleCatalogClaim prior head
  treeSize : link.bundle.treeSize = head.size
  logRootHash : link.bundle.logRootHash = head.root
  projected : link.head.projected = head.floor []

theorem sampleLink {prior head : SampleHead} (hgrows : prior.size ≤ head.size) :
    ∃ link, SampleLink prior head link := by
  obtain ⟨wireA, wireB, catalog, monitors, requests, signedEvidence, bundle, hqualified, hfuse⟩ :=
    sampleCatalog_qualified hgrows
  obtain ⟨hpackage, -, hfused⟩ := fuseHeadSources_spec hfuse
  refine ⟨⟨sampleHeadProfile, sampleAdapterProfile, sampleTimeBundle wireA wireB, requests,
    signedEvidence, bundle, hqualified⟩, ⟨_, _, _, congrArg
      AuthenticatedHeadEvidencePackageV1.request hpackage⟩, ?_, ?_, ?_, ?_⟩
  · rw [hpackage]
    rfl
  · rw [hfused.treeSize, hpackage]
    rfl
  · rw [hfused.logRootHash, hpackage]
    rfl
  · refine hfused.projected.trans ?_
    rw [QualifiedHeadCatalogBundleV1.catalogRequest, hpackage]
    rfl

/-- A link carries the history whose newest link is of the head that it carries. -/
theorem SampleLink.carries {prior head older : SampleHead}
    {link last : CatalogLink sampleAdapterEnv} {history : List (CatalogLink sampleAdapterEnv)}
    (h : SampleLink prior head link) (hlast : SampleLink older prior last) :
    Carries (last :: history) link.request := by
  obtain ⟨sourceId, role, supported, hrequest⟩ := h.request
  have hhead := hlast.projected
  simp only [HeadCheckpointFloorV1.projected, SampleHead.floor, HeadCheckpointFloorV1.mk.injEq,
    and_true] at hhead
  obtain ⟨-, -, hsequence, hcheckpoint, hmission, hmissionSequence, hmissionCheckpoint⟩ := hhead
  rw [hrequest]
  constructor
  · intro newest hnewest
    obtain rfl := Option.some.inj hnewest
    exact ⟨hlast.treeSize.symm, hlast.logRootHash.symm⟩
  · intro newest hnewest
    obtain rfl := Option.some.inj hnewest
    rw [hsequence, hcheckpoint]
    exact ⟨rfl, rfl⟩
  · intro newest hnewest
    have hsame : decide (last.head.missionId =
        (sampleCatalogRequest prior sourceId role supported).missionId) = true :=
      decide_eq_true hmission
    simp only [List.find?_cons, hsame] at hnewest
    obtain rfl := Option.some.inj hnewest
    rw [hmissionSequence, hmissionCheckpoint]
    exact ⟨rfl, rfl⟩

/-- A log keeps its genesis, grows by its first checkpoint and keeps that : the last two bundles
prove that their logs begin with the one before, and the last two have one head. -/
theorem catalog_non_equivocation_sample :
    ∃ kept grown opened : CatalogLink sampleAdapterEnv,
      CatalogHistory [kept, grown, opened] ∧
      (opened.bundle.treeSize = 1 ∧ grown.bundle.treeSize = 2 ∧ kept.bundle.treeSize = 2) ∧
      (opened.head.instanceSequence = -1 ∧ grown.head.instanceSequence = 0) ∧
      grown.bundle.catalogPackage.claim.consistencyProof = [SampleHead.first.leafHash] ∧
      grown.bundle.catalogPackage.claim.projectionInclusionProof =
        [SampleHead.genesis.leafHash] ∧
      LogPrefix [kept, grown, opened] grown opened ∧
      LogPrefix [kept, grown, opened] kept opened ∧
      kept.bundle.logRootHash = grown.bundle.logRootHash ∧
      kept.head.checkpoint.checkpointId = grown.head.checkpoint.checkpointId ∧
      opened.Watched ∧ grown.Watched ∧ kept.Watched := by
  obtain ⟨opened, hopened⟩ := @sampleLink .genesis .genesis (by decide)
  obtain ⟨grown, hgrown⟩ := @sampleLink .genesis .first (by decide)
  obtain ⟨kept, hkept⟩ := @sampleLink .first .first (by decide)
  have hhistory : CatalogHistory [kept, grown, opened] :=
    .extend (.extend (.extend .nil ⟨by simp, by simp, by simp⟩) (hgrown.carries hopened))
      (hkept.carries hgrown)
  obtain ⟨hpairs, hwatched⟩ := catalog_non_equivocation hhistory
  obtain ⟨hlast, hrest⟩ := List.pairwise_cons.mp hpairs
  obtain ⟨-, -, -, hsame, hcheckpoint, -, -⟩ := hlast grown List.mem_cons_self
  obtain ⟨-, -, -, -, -, -, hprefix⟩ := hlast opened (by simp)
  obtain ⟨-, -, -, -, -, -, hprefix'⟩ :=
    (List.pairwise_cons.mp hrest).1 opened (List.mem_singleton_self opened)
  have hsize : kept.bundle.treeSize = grown.bundle.treeSize :=
    hkept.treeSize.trans hgrown.treeSize.symm
  have hsequence {prior head : SampleHead} {link : CatalogLink sampleAdapterEnv}
      (h : SampleLink prior head link) : link.head.instanceSequence = head.sequence :=
    congrArg HeadCheckpointFloorV1.instanceSequence h.projected
  exact ⟨kept, grown, opened, hhistory, ⟨hopened.treeSize, hgrown.treeSize, hkept.treeSize⟩,
    ⟨hsequence hopened, hsequence hgrown⟩,
    congrArg HeadCatalogClaim.consistencyProof hgrown.claim,
    congrArg HeadCatalogClaim.projectionInclusionProof hgrown.claim, hprefix', hprefix,
    (hsame hsize).1, hcheckpoint ((hsequence hkept).trans (hsequence hgrown).symm),
    hwatched opened (by simp), hwatched grown (by simp), hwatched kept List.mem_cons_self⟩

end Etzio
