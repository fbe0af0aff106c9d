import Mathlib
import Etzio.CheckedRun
import Etzio.MerkleTrees

/-!
# Merkle proofs

The RFC 9162 functions of the head-authority adapters. `merkle_root_v1` and the two provers
recurse on the largest power of two below the size ; the two verifiers never see a leaf and walk
up on shifting indices. A verifier's loop takes the neighbours on the sides that its two indices
give (`inclusionLoop_eq_ok`, `consistencyLoop_eq_ok`), and the provers list the neighbours in
that order (`merkleInclusionProofV1_eq`, `merkleSubproof_odd`).

* `inclusion_complete`, `consistency_complete` : what a prover returns is accepted.
* `inclusion_binds` : an accepted inclusion proof is the only one, or it exhibits a collision.
* `consistency_binds` : the earlier root of an accepted consistency proof is that of the first
  leaves, or the proof exhibits a collision.

Hashes are bytes. A `TreeHash` is a node hash function to 32 bytes, any one.
-/

open CheckedRun MerkleTrees

namespace Etzio

/-! ## Hashes and errors -/

/-- `HeadAuthorityAdapterError`. -/
structure HeadAuthorityAdapterError where
  reasonCode : String
  message : String
  deriving DecidableEq, Repr

/-- `MAX_HEAD_PROOF_NODES_V1`. -/
def maxHeadProofNodesV1 : ℕ := 64

/-- The hash function of a tree : `_merkle_node_hash`, and the digest of no bytes. -/
structure TreeHash where
  node : List UInt8 → List UInt8 → List UInt8
  empty : List UInt8
  length_node : ∀ left right, (node left right).length = 32

/-- The bytes of a digest. -/
def digestBytes (digest : BitVec 256) : List UInt8 :=
  (List.range 32).map fun i => UInt8.ofNat (digest.toNat / 256 ^ (31 - i))

/-- `_MERKLE_NODE_PREFIX`. -/
def merkleNodePrefix : UInt8 := 1

/-- The trees that the source builds with SHA-256. -/
def merkleTreeHash (sha256 : ByteArray → BitVec 256) : TreeHash where
  node left right := digestBytes (sha256 (merkleNodePrefix :: left ++ right).toByteArray)
  empty := digestBytes (sha256 ByteArray.empty)
  length_node _ _ := by simp [digestBytes]

/-! ## Roots and provers -/

/-- `_largest_power_of_two_below`. -/
def largestPowerOfTwoBelow (size : ℕ) : ℕ :=
  if size &&& (size - 1) ≠ 0 then 1 <<< (size.size - 1) else size >>> 1

theorem largestPowerOfTwoBelow_spec {size : ℕ} (hsize : 2 ≤ size) :
    ∃ k, largestPowerOfTwoBelow size = 2 ^ k ∧ 2 ^ k < size ∧ size ≤ 2 ^ (k + 1) := by
  unfold largestPowerOfTwoBelow
  by_cases hpow : size.isPowerOfTwo
  · obtain ⟨k, rfl⟩ := hpow
    obtain ⟨k, rfl⟩ : ∃ j, k = j + 1 :=
      Nat.exists_eq_add_one_of_ne_zero (by rintro rfl; simp at hsize)
    have hzero := (Nat.and_sub_one_eq_zero_iff_isPowerOfTwo (n := 2 ^ (k + 1)) (by omega)).mpr
      ⟨_, rfl⟩
    rw [if_neg (not_not.mpr hzero), Nat.shiftRight_one]
    have hpow := pow_succ 2 k
    have := Nat.two_pow_pos k
    exact ⟨k, by omega, by omega, by omega⟩
  · have hne : size &&& (size - 1) ≠ 0 :=
      mt (Nat.and_sub_one_eq_zero_iff_isPowerOfTwo (by omega)).mp hpow
    obtain ⟨k, hk⟩ : ∃ k, size.size = k + 1 :=
      Nat.exists_eq_add_one_of_ne_zero (by rw [Ne, Nat.size_eq_zero]; omega)
    have hle : 2 ^ k ≤ size := Nat.lt_size.mp (by omega)
    have hlt : size < 2 ^ (k + 1) := Nat.size_le.mp hk.le
    rw [if_pos hne, hk, Nat.add_sub_cancel, Nat.one_shiftLeft]
    exact ⟨k, rfl, lt_of_le_of_ne hle fun h => hpow ⟨k, h.symm⟩, hlt.le⟩

theorem largestPowerOfTwoBelow_eq {k size : ℕ} (hlow : 2 ^ k < size) (hhigh : size ≤ 2 ^ (k + 1)) :
    largestPowerOfTwoBelow size = 2 ^ k := by
  have hpow := Nat.two_pow_pos k
  obtain ⟨j, hj, hlow', hhigh'⟩ := largestPowerOfTwoBelow_spec (show 2 ≤ size by omega)
  have h₁ : k < j + 1 := (Nat.pow_lt_pow_iff_right one_lt_two).mp (hlow.trans_le hhigh')
  have h₂ : j < k + 1 := (Nat.pow_lt_pow_iff_right one_lt_two).mp (hlow'.trans_le hhigh)
  rw [hj, show j = k by omega]

theorem largestPowerOfTwoBelow_bounds {size : ℕ} (hsize : 2 ≤ size) :
    0 < largestPowerOfTwoBelow size ∧ largestPowerOfTwoBelow size < size := by
  obtain ⟨k, hk, hlt, -⟩ := largestPowerOfTwoBelow_spec hsize
  rw [hk]
  exact ⟨Nat.two_pow_pos k, hlt⟩

variable (T : TreeHash)

/-- `merkle_root_v1`. -/
def merkleRootV1 : List (List UInt8) → List UInt8
  | [] => T.empty
  | [leafHash] => leafHash
  | leafHash :: next :: rest =>
    let leafHashes := leafHash :: next :: rest
    let split := largestPowerOfTwoBelow leafHashes.length
    T.node (merkleRootV1 (leafHashes.take split)) (merkleRootV1 (leafHashes.drop split))
termination_by leafHashes => leafHashes.length
decreasing_by
  all_goals
    have := largestPowerOfTwoBelow_bounds
      (show 2 ≤ (leafHash :: next :: rest).length by simp)
    simp only [List.length_take, List.length_drop]
    omega

/-- The child pairs that `merkle_root_v1` hashes. -/
def merkleRootPairs : List (List UInt8) → List (List UInt8 × List UInt8)
  | leafHash :: next :: rest =>
    let leafHashes := leafHash :: next :: rest
    let split := largestPowerOfTwoBelow leafHashes.length
    merkleRootPairs (leafHashes.take split) ++ merkleRootPairs (leafHashes.drop split) ++
      [(merkleRootV1 T (leafHashes.take split), merkleRootV1 T (leafHashes.drop split))]
  | _ => []
termination_by leafHashes => leafHashes.length
decreasing_by
  all_goals
    have := largestPowerOfTwoBelow_bounds
      (show 2 ≤ (leafHash :: next :: rest).length by simp)
    simp only [List.length_take, List.length_drop]
    omega

/-- `merkle_inclusion_proof_v1`. -/
def merkleInclusionProofV1 (leafHashes : List (List UInt8)) (leafIndex : ℕ) :
    Except HeadAuthorityAdapterError (List (List UInt8)) :=
  if _h : leafIndex ≥ leafHashes.length then
    .error ⟨"invalid_head_proof", "inclusion proof requires an in-range leaf index"⟩
  else if _hone : leafHashes.length = 1 then .ok []
  else
    let split := largestPowerOfTwoBelow leafHashes.length
    if leafIndex < split then do
      let proof ← merkleInclusionProofV1 (leafHashes.take split) leafIndex
      return proof ++ [merkleRootV1 T (leafHashes.drop split)]
    else do
      let proof ← merkleInclusionProofV1 (leafHashes.drop split) (leafIndex - split)
      return proof ++ [merkleRootV1 T (leafHashes.take split)]
termination_by leafHashes.length
decreasing_by
  all_goals
    have := largestPowerOfTwoBelow_bounds (show 2 ≤ leafHashes.length by omega)
    simp only [List.length_take, List.length_drop]
    omega

/-- `_merkle_subproof`, for a first size from 1 to the number of leaves. Outside of these the
source recurses without end ; nothing calls it there. -/
def merkleSubproof (leafHashes : List (List UInt8)) (firstSize : ℕ) (complete : Bool) :
    List (List UInt8) :=
  if firstSize = leafHashes.length then if complete then [] else [merkleRootV1 T leafHashes]
  else if _h : leafHashes.length ≤ 1 then []
  else
    let split := largestPowerOfTwoBelow leafHashes.length
    if firstSize ≤ split then
      merkleSubproof (leafHashes.take split) firstSize complete ++
        [merkleRootV1 T (leafHashes.drop split)]
    else
      merkleSubproof (leafHashes.drop split) (firstSize - split) false ++
        [merkleRootV1 T (leafHashes.take split)]
termination_by leafHashes.length
decreasing_by
  all_goals
    have := largestPowerOfTwoBelow_bounds (show 2 ≤ leafHashes.length by omega)
    simp only [List.length_take, List.length_drop]
    omega

/-- `merkle_consistency_proof_v1`. -/
def merkleConsistencyProofV1 (leafHashes : List (List UInt8)) (firstSize : ℕ) :
    Except HeadAuthorityAdapterError (List (List UInt8)) := do
  refuseIf (firstSize = 0 ∨ firstSize > leafHashes.length)
    ⟨"invalid_head_proof", "consistency proof requires a positive prefix within the tree"⟩
  return merkleSubproof T leafHashes firstSize true

/-! ## Verifiers -/

/-- The inner loop of both verifiers, over the right edge of the tree. -/
def shiftRightEdge (nodeIndex lastIndex : ℕ) : ℕ × ℕ :=
  if nodeIndex &&& 1 = 0 ∧ nodeIndex ≠ 0 then shiftRightEdge (nodeIndex >>> 1) (lastIndex >>> 1)
  else (nodeIndex, lastIndex)
termination_by nodeIndex
decreasing_by
  rw [Nat.shiftRight_one]
  omega

/-- The variables of the loop of `verify_merkle_inclusion_v1`. -/
structure InclusionState where
  nodeIndex : ℕ
  lastIndex : ℕ
  computed : List UInt8

/-- The loop of `verify_merkle_inclusion_v1`. -/
def inclusionStep (s : InclusionState) (node : List UInt8) :
    Except HeadAuthorityAdapterError InclusionState := do
  refuseIf (node.length ≠ 32)
    ⟨"invalid_head_proof", "inclusion proof nodes must be 32-byte hashes"⟩
  refuseIf (s.lastIndex = 0) ⟨"head_inclusion_proof_invalid",
    "inclusion proof is longer than the claimed tree geometry allows"⟩
  if s.nodeIndex &&& 1 ≠ 0 ∨ s.nodeIndex = s.lastIndex then
    let (nodeIndex, lastIndex) := shiftRightEdge s.nodeIndex s.lastIndex
    return ⟨nodeIndex >>> 1, lastIndex >>> 1, T.node node s.computed⟩
  else return ⟨s.nodeIndex >>> 1, s.lastIndex >>> 1, T.node s.computed node⟩

/-- `verify_merkle_inclusion_v1`. -/
def verifyMerkleInclusionV1 (leafHash : List UInt8) (leafIndex treeSize : ℤ)
    (proof : List (List UInt8)) (rootHash : List UInt8) :
    Except HeadAuthorityAdapterError Unit := do
  refuseIf (leafHash.length ≠ 32)
    ⟨"invalid_head_proof", "inclusion proof requires one 32-byte leaf hash"⟩
  refuseIf (rootHash.length ≠ 32)
    ⟨"invalid_head_proof", "inclusion proof requires one 32-byte root hash"⟩
  refuseIf (treeSize ≤ 0)
    ⟨"invalid_head_proof", "inclusion proof requires a positive tree size"⟩
  refuseIf (leafIndex < 0 ∨ leafIndex ≥ treeSize) ⟨"head_inclusion_proof_invalid",
    "inclusion proof leaf index is outside the claimed tree"⟩
  refuseIf (proof.length > maxHeadProofNodesV1)
    ⟨"invalid_head_proof", "inclusion proof must be a bounded ordered tuple"⟩
  let s ← proof.foldlM (inclusionStep T) ⟨leafIndex.toNat, (treeSize - 1).toNat, leafHash⟩
  refuseIf (s.lastIndex ≠ 0) ⟨"head_inclusion_proof_invalid",
    "inclusion proof is shorter than the claimed tree geometry requires"⟩
  refuseIf (s.computed ≠ rootHash) ⟨"head_inclusion_proof_invalid",
    "inclusion proof does not recompute the claimed log root"⟩

/-- `(size & -size).bit_length() - 1`. -/
def trailingZeros (size : ℤ) : ℕ := (Int.land size (-size)).toNat.size - 1

/-- The variables of the loop of `verify_merkle_consistency_v1`. -/
structure ConsistencyState where
  nodeIndex : ℕ
  lastIndex : ℕ
  computedFirst : List UInt8
  computedSecond : List UInt8

/-- The loop of `verify_merkle_consistency_v1`. -/
def consistencyStep (s : ConsistencyState) (node : List UInt8) :
    Except HeadAuthorityAdapterError ConsistencyState := do
  refuseIf (node.length ≠ 32)
    ⟨"invalid_head_proof", "consistency proof nodes must be 32-byte hashes"⟩
  refuseIf (s.lastIndex = 0) ⟨"head_consistency_proof_invalid",
    "consistency proof is longer than the claimed tree geometry allows"⟩
  if s.nodeIndex &&& 1 ≠ 0 ∨ s.nodeIndex = s.lastIndex then
    let (nodeIndex, lastIndex) := shiftRightEdge s.nodeIndex s.lastIndex
    return ⟨nodeIndex >>> 1, lastIndex >>> 1, T.node node s.computedFirst,
      T.node node s.computedSecond⟩
  else return ⟨s.nodeIndex >>> 1, s.lastIndex >>> 1, s.computedFirst,
    T.node s.computedSecond node⟩

/-- The hash that `verify_merkle_consistency_v1` starts from, and the nodes that remain : the
retained root, or the first node. -/
def consistencySeed (nodeIndex : ℕ) (firstRoot : List UInt8) :
    List (List UInt8) → Except HeadAuthorityAdapterError (List UInt8 × List (List UInt8))
  | node :: remaining =>
    if nodeIndex = 1 then .ok (firstRoot, node :: remaining)
    else do
      refuseIf (node.length ≠ 32)
        ⟨"invalid_head_proof", "consistency proof nodes must be 32-byte hashes"⟩
      return (node, remaining)
  | [] => .error ⟨"head_consistency_proof_invalid",
      "a grown tree requires a consistency proof from the retained root"⟩

/-- `verify_merkle_consistency_v1`. -/
def verifyMerkleConsistencyV1 (firstSize : ℤ) (firstRoot : List UInt8) (secondSize : ℤ)
    (secondRoot : List UInt8) (proof : List (List UInt8)) :
    Except HeadAuthorityAdapterError Unit := do
  refuseIf (firstRoot.length ≠ 32)
    ⟨"invalid_head_proof", "consistency proof requires one 32-byte first root"⟩
  refuseIf (secondRoot.length ≠ 32)
    ⟨"invalid_head_proof", "consistency proof requires one 32-byte second root"⟩
  refuseIf (firstSize ≤ 0)
    ⟨"invalid_head_proof", "consistency proof requires a positive retained tree size"⟩
  refuseIf (secondSize ≤ 0)
    ⟨"invalid_head_proof", "consistency proof requires a positive tree size"⟩
  refuseIf (proof.length > maxHeadProofNodesV1)
    ⟨"invalid_head_proof", "consistency proof must be a bounded ordered tuple"⟩
  refuseIf (firstSize > secondSize) ⟨"head_catalog_tree_rollback",
    "catalog tree size regressed below the retained predecessor"⟩
  if firstSize = secondSize then
    refuseIf (proof ≠ []) ⟨"head_consistency_proof_invalid",
      "an unchanged tree size cannot carry a consistency proof"⟩
    refuseIf (firstRoot ≠ secondRoot) ⟨"head_catalog_equivocation",
      "an unchanged tree size cannot change its log root"⟩
  else
    let shift := trailingZeros firstSize
    let nodeIndex := firstSize.toNat >>> shift
    let lastIndex := (secondSize - 1).toNat >>> shift
    let (seed, remaining) ← consistencySeed nodeIndex firstRoot proof
    let s ← remaining.foldlM (consistencyStep T) ⟨nodeIndex - 1, lastIndex, seed, seed⟩
    refuseIf (s.lastIndex ≠ 0) ⟨"head_consistency_proof_invalid",
      "consistency proof is shorter than the claimed tree geometry requires"⟩
    refuseIf (s.computedFirst ≠ firstRoot) ⟨"head_consistency_proof_invalid",
      "consistency proof does not recompute the retained predecessor root"⟩
    refuseIf (s.computedSecond ≠ secondRoot) ⟨"head_consistency_proof_invalid",
      "consistency proof does not recompute the claimed log root"⟩

/-! ## Collisions -/

/-- The child pairs that the loop of `verify_merkle_inclusion_v1` hashes. -/
def inclusionLoopPairs (nodeIndex lastIndex : ℕ) :
    List (List UInt8) → List UInt8 → List (List UInt8 × List UInt8)
  | [], _ => []
  | node :: proof, computed =>
    if nodeIndex &&& 1 ≠ 0 ∨ nodeIndex = lastIndex then
      let (nodeIndex, lastIndex) := shiftRightEdge nodeIndex lastIndex
      (node, computed) ::
        inclusionLoopPairs (nodeIndex >>> 1) (lastIndex >>> 1) proof (T.node node computed)
    else
      (computed, node) ::
        inclusionLoopPairs (nodeIndex >>> 1) (lastIndex >>> 1) proof (T.node computed node)

/-- The child pairs that `verify_merkle_inclusion_v1` hashes. -/
def inclusionPairs (leafHash : List UInt8) (leafIndex treeSize : ℤ) (proof : List (List UInt8)) :
    List (List UInt8 × List UInt8) :=
  inclusionLoopPairs T leafIndex.toNat (treeSize - 1).toNat proof leafHash

/-- The child pairs that the loop of `verify_merkle_consistency_v1` hashes. -/
def consistencyLoopPairs (nodeIndex lastIndex : ℕ) :
    List (List UInt8) → List UInt8 → List UInt8 → List (List UInt8 × List UInt8)
  | [], _, _ => []
  | node :: proof, computedFirst, computedSecond =>
    if nodeIndex &&& 1 ≠ 0 ∨ nodeIndex = lastIndex then
      let (nodeIndex, lastIndex) := shiftRightEdge nodeIndex lastIndex
      (node, computedFirst) :: (node, computedSecond) ::
        consistencyLoopPairs (nodeIndex >>> 1) (lastIndex >>> 1) proof
          (T.node node computedFirst) (T.node node computedSecond)
    else
      (computedSecond, node) ::
        consistencyLoopPairs (nodeIndex >>> 1) (lastIndex >>> 1) proof computedFirst
          (T.node computedSecond node)

/-- The child pairs that `verify_merkle_consistency_v1` hashes. -/
def consistencyPairs (firstSize : ℤ) (firstRoot : List UInt8) (secondSize : ℤ)
    (proof : List (List UInt8)) : List (List UInt8 × List UInt8) :=
  let shift := trailingZeros firstSize
  match consistencySeed (firstSize.toNat >>> shift) firstRoot proof with
  | .ok (seed, remaining) =>
    consistencyLoopPairs T (firstSize.toNat >>> shift - 1) ((secondSize - 1).toNat >>> shift)
      remaining seed seed
  | .error _ => []

/-- A pair of two 32-byte children, 64 bytes together. -/
def IsChildPair (x : List UInt8 × List UInt8) : Prop := x.1.length = 32 ∧ x.2.length = 32

/-- Two computations exhibit a collision : one hashes a pair of children, the other a different
one, to the same node hash. -/
def Collision (P Q : List (List UInt8 × List UInt8)) : Prop :=
  ∃ x ∈ P, ∃ y ∈ Q, IsChildPair x ∧ IsChildPair y ∧ x ≠ y ∧ T.node x.1 x.2 = T.node y.1 y.2

variable {T}

/-! ## Roots -/

theorem merkleRootV1_of_two_le {leafHashes : List (List UInt8)} (h : 2 ≤ leafHashes.length) :
    merkleRootV1 T leafHashes =
      T.node (merkleRootV1 T (leafHashes.take (largestPowerOfTwoBelow leafHashes.length)))
        (merkleRootV1 T (leafHashes.drop (largestPowerOfTwoBelow leafHashes.length))) := by
  match leafHashes, h with
  | a :: b :: rest, _ => rw [merkleRootV1]

theorem merkleRootPairs_of_two_le {leafHashes : List (List UInt8)} (h : 2 ≤ leafHashes.length) :
    merkleRootPairs T leafHashes =
      merkleRootPairs T (leafHashes.take (largestPowerOfTwoBelow leafHashes.length)) ++
        merkleRootPairs T (leafHashes.drop (largestPowerOfTwoBelow leafHashes.length)) ++
      [(merkleRootV1 T (leafHashes.take (largestPowerOfTwoBelow leafHashes.length)),
        merkleRootV1 T (leafHashes.drop (largestPowerOfTwoBelow leafHashes.length)))] := by
  match leafHashes, h with
  | a :: b :: rest, _ => rw [merkleRootPairs]

/-- `merkle_root_v1` is the top of the tree. -/
theorem merkleRootV1_eq (leafHashes : List (List UInt8)) :
    merkleRootV1 T leafHashes = top T.node T.empty leafHashes := by
  induction hn : leafHashes.length using Nat.strong_induction_on generalizing leafHashes with
  | _ n ih =>
    match hleaves : leafHashes with
    | [] => simp [merkleRootV1]
    | [a] => simp [merkleRootV1]
    | a :: b :: rest =>
      rw [← hleaves] at hn ⊢
      have htwo : 2 ≤ leafHashes.length := by simp [hleaves]
      obtain ⟨k, hk, hlow, hhigh⟩ := largestPowerOfTwoBelow_spec htwo
      have hpow := Nat.two_pow_pos k
      rw [merkleRootV1_of_two_le htwo, hk, top_split T.node T.empty hlow hhigh,
        ih _ (by rw [← hn, List.length_take_of_le hlow.le]; exact hlow) _ rfl,
        ih _ (by rw [← hn, List.length_drop]; omega) _ rfl]

/-- `merkle_root_v1` hashes every pair of the tree. -/
theorem topPairs_subset (leafHashes : List (List UInt8)) :
    topPairs T.node leafHashes ⊆ merkleRootPairs T leafHashes := by
  induction hn : leafHashes.length using Nat.strong_induction_on generalizing leafHashes with
  | _ n ih =>
    match hleaves : leafHashes with
    | [] => simp [topPairs]
    | [a] => simp [topPairs]
    | a :: b :: rest =>
      rw [← hleaves] at hn ⊢
      have htwo : 2 ≤ leafHashes.length := by simp [hleaves]
      obtain ⟨k, hk, hlow, hhigh⟩ := largestPowerOfTwoBelow_spec htwo
      have hpow := Nat.two_pow_pos k
      have htake := ih _ (by rw [← hn, List.length_take_of_le hlow.le]; exact hlow)
        (leafHashes.take (2 ^ k)) rfl
      have hdrop := ih _ (by rw [← hn, List.length_drop]; omega)
        (leafHashes.drop (2 ^ k)) rfl
      rw [merkleRootPairs_of_two_le htwo, hk, merkleRootV1_eq, merkleRootV1_eq]
      refine List.Subset.trans (topPairs_split T.node T.empty hlow hhigh) ?_
      exact List.append_subset.mpr ⟨List.append_subset.mpr
        ⟨List.Subset.trans htake (by simp), List.Subset.trans hdrop (by simp)⟩, by simp⟩

/-! ## Inclusion proofs -/

/-- `merkle_inclusion_proof_v1` returns the path of the leaf. -/
theorem merkleInclusionProofV1_eq {leafHashes : List (List UInt8)} {i : ℕ}
    (hi : i < leafHashes.length) :
    merkleInclusionProofV1 T leafHashes i = .ok (path T.node leafHashes i) := by
  induction hn : leafHashes.length using Nat.strong_induction_on generalizing leafHashes i with
  | _ n ih =>
    rw [merkleInclusionProofV1, dif_neg (not_le.mpr hi)]
    by_cases hone : leafHashes.length = 1
    · obtain ⟨a, rfl⟩ := List.length_eq_one_iff.mp hone
      rw [dif_pos hone, path_singleton]
    have htwo : 2 ≤ leafHashes.length := by omega
    obtain ⟨k, hk, hlow, hhigh⟩ := largestPowerOfTwoBelow_spec htwo
    have hpow := Nat.two_pow_pos k
    rw [dif_neg hone]
    simp only [hk]
    by_cases hleft : i < 2 ^ k
    · have htake : (leafHashes.take (2 ^ k)).length = 2 ^ k := List.length_take_of_le hlow.le
      rw [if_pos hleft, ih _ (by omega) (by omega) htake, merkleRootV1_eq,
        path_split_left T.node T.empty hlow hhigh hleft]
      rfl
    · have hdrop : (leafHashes.drop (2 ^ k)).length = leafHashes.length - 2 ^ k :=
        List.length_drop
      rw [if_neg hleft, ih _ (by omega) (by omega) hdrop, merkleRootV1_eq,
        path_split_right T.node T.empty (not_lt.mp hleft) hi hhigh]
      rfl

/-- Between the leaves and the root the right edge has no neighbours : the inner loop goes up
to the first index that has one, on the left. -/
theorem shiftRightEdge_last {i : ℕ} (hi : i ≠ 0) :
    ∃ j, shiftRightEdge i i = (j, j) ∧ j % 2 = 1 ∧ sides i i = sides j j := by
  induction i using Nat.strong_induction_on with
  | _ i ih =>
    rw [shiftRightEdge]
    rcases Nat.mod_two_eq_zero_or_one i with heven | hodd
    · rw [if_pos ⟨by rw [Nat.and_one_is_mod, heven], hi⟩, Nat.shiftRight_one, sides_last heven]
      exact ih _ (by omega) (by omega)
    · rw [if_neg (by rw [Nat.and_one_is_mod]; omega)]
      exact ⟨i, rfl, hodd, rfl⟩

theorem shiftRightEdge_odd {i last : ℕ} (hi : i % 2 = 1) :
    shiftRightEdge i last = (i, last) := by
  rw [shiftRightEdge, if_neg (by rw [Nat.and_one_is_mod]; omega)]

theorem sides_ne_nil {i last : ℕ} (hle : i ≤ last) (hlast : last ≠ 0) : sides i last ≠ [] := by
  rcases Nat.mod_two_eq_zero_or_one i with hi | hi
  · rcases hle.eq_or_lt with rfl | hlt
    · obtain ⟨j, -, hodd, hsides⟩ := shiftRightEdge_last hlast
      rw [hsides, sides_odd (by omega) hodd]
      simp
    · rw [sides_even hi hlt]
      simp
  · rw [sides_odd hlast hi]
    simp

/-- What both loops do with their indices : the node is on the left or on the right, as the
sides say, and the indices of the rest are again those of a place in a tree. -/
theorem loop_sides {i last : ℕ} (hle : i ≤ last) (hlast : last ≠ 0) :
    ((i &&& 1 ≠ 0 ∨ i = last) ∧ ∃ j l, shiftRightEdge i last = (j, l) ∧ j >>> 1 ≤ l >>> 1 ∧
      sides i last = .left :: sides (j >>> 1) (l >>> 1)) ∨
    (¬(i &&& 1 ≠ 0 ∨ i = last) ∧ i >>> 1 ≤ last >>> 1 ∧
      sides i last = .right :: sides (i >>> 1) (last >>> 1)) := by
  simp only [Nat.and_one_is_mod, Nat.shiftRight_one]
  rcases Nat.mod_two_eq_zero_or_one i with hi | hi
  · rcases hle.eq_or_lt with rfl | hlt
    · obtain ⟨j, hshift, hodd, hsides⟩ := shiftRightEdge_last hlast
      exact .inl ⟨.inr rfl, j, j, hshift, le_rfl, by rw [hsides, sides_odd (by omega) hodd]⟩
    · exact .inr ⟨by omega, by omega, sides_even hi hlt⟩
  · exact .inl ⟨.inl (by omega), i, last, shiftRightEdge_odd hi, by omega, sides_odd hlast hi⟩

/-- The loop of `verify_merkle_inclusion_v1` ends at the root's index exactly when the proof
has a node for each side, and it computes what they lead to. -/
theorem inclusionLoop_eq_ok {i last : ℕ} {proof : List (List UInt8)} {x root : List UInt8}
    (hle : i ≤ last) :
    (∃ s, proof.foldlM (inclusionStep T) ⟨i, last, x⟩ = .ok s ∧ s.lastIndex = 0 ∧
      s.computed = root) ↔
    (∀ node ∈ proof, node.length = 32) ∧ proof.length = (sides i last).length ∧
      ascend T.node (sides i last) proof x = root := by
  induction proof generalizing i last x with
  | nil =>
    by_cases hlast : last = 0
    · subst hlast
      simp [pure, Except.pure, sides_zero, ascend]
    · have hne := sides_ne_nil hle hlast
      simp [pure, Except.pure, hlast, hne, eq_comm (a := 0)]
  | cons node proof ih =>
    simp only [foldlM_cons_eq_ok, inclusionStep, unit_bind_eq_ok, refuseIf_eq_ok, not_not,
      List.forall_mem_cons]
    by_cases hlast : last = 0
    · subst hlast
      simp [sides_zero]
    rcases loop_sides hle hlast with ⟨hcond, j, l, hshift, hjl, hsides⟩ | ⟨hcond, hjl, hsides⟩
    · rw [hsides, List.length_cons, List.length_cons, Nat.add_right_cancel_iff]
      simp only [if_pos hcond, hshift, pure, Except.pure, Except.ok.injEq, hlast, not_false_eq_true,
        true_and, ascend, Side.order]
      rw [and_assoc, ← ih hjl]
      grind
    · rw [hsides, List.length_cons, List.length_cons, Nat.add_right_cancel_iff]
      simp only [if_neg hcond, pure, Except.pure, Except.ok.injEq, hlast, not_false_eq_true,
        true_and, ascend, Side.order]
      rw [and_assoc, ← ih hjl]
      grind

/-- `verify_merkle_inclusion_v1` accepts what leads to the root along the sides of the index. -/
theorem verifyMerkleInclusionV1_eq_ok {leafHash rootHash : List UInt8} {leafIndex treeSize : ℤ}
    {proof : List (List UInt8)} :
    verifyMerkleInclusionV1 T leafHash leafIndex treeSize proof rootHash = .ok () ↔
      leafHash.length = 32 ∧ rootHash.length = 32 ∧ 0 ≤ leafIndex ∧ leafIndex < treeSize ∧
      proof.length ≤ maxHeadProofNodesV1 ∧ (∀ node ∈ proof, node.length = 32) ∧
      proof.length = (sides leafIndex.toNat (treeSize.toNat - 1)).length ∧
      ascend T.node (sides leafIndex.toNat (treeSize.toNat - 1)) proof leafHash = rootHash := by
  have hloop (hlow : 0 ≤ leafIndex) (hhigh : leafIndex < treeSize) :=
    @inclusionLoop_eq_ok T leafIndex.toNat (treeSize - 1).toNat proof leafHash rootHash (by omega)
  have hlast : (treeSize - 1).toNat = treeSize.toNat - 1 := by omega
  simp only [verifyMerkleInclusionV1, bind_eq_ok, refuseIf_eq_ok, exists_const, not_not, not_le,
    not_or, not_lt]
  constructor
  · rintro ⟨hleaf, hroot, hsize, ⟨hlow, hhigh⟩, hbound, s, hs, hzero, hcomputed⟩
    obtain ⟨hnodes, hlength, hascend⟩ := (hloop hlow (by omega)).mp ⟨s, hs, hzero, hcomputed⟩
    rw [hlast] at hlength hascend
    exact ⟨hleaf, hroot, hlow, by omega, hbound, hnodes, hlength, hascend⟩
  · rintro ⟨hleaf, hroot, hlow, hhigh, hbound, hnodes, hlength, hascend⟩
    rw [← hlast] at hlength hascend
    obtain ⟨s, hs, hzero, hcomputed⟩ := (hloop hlow hhigh).mpr ⟨hnodes, hlength, hascend⟩
    exact ⟨hleaf, hroot, by omega, ⟨hlow, by omega⟩, hbound, s, hs, hzero, hcomputed⟩

/-- Every hash of a tree of 32-byte hashes has 32 bytes. -/
theorem level_length {leafHashes : List (List UInt8)} (h : ∀ x ∈ leafHashes, x.length = 32) :
    ∀ x ∈ level T.node leafHashes, x.length = 32 := by
  induction leafHashes using List.twoStepInduction with
  | nil => simp
  | singleton a => simpa using h
  | cons_cons a b rest ih _ =>
    simp only [List.forall_mem_cons] at h
    rw [level_cons_cons, List.forall_mem_cons]
    exact ⟨T.length_node a b, ih h.2.2⟩

theorem levels_length {leafHashes : List (List UInt8)} (h : ∀ x ∈ leafHashes, x.length = 32)
    (s : ℕ) : ∀ x ∈ levels T.node s leafHashes, x.length = 32 := by
  induction s generalizing leafHashes with
  | zero => exact h
  | succ s ih => exact ih (level_length h)

theorem path_length {leafHashes : List (List UInt8)} {i : ℕ} {x : List UInt8}
    (hplace : Ascent T.node leafHashes i x) (h : ∀ y ∈ leafHashes, y.length = 32) :
    ∀ node ∈ path T.node leafHashes i, node.length = 32 := by
  induction hplace with
  | single x => simp [path_singleton]
  | odd hi hp hx _ ih =>
    rw [(path_sides_odd T.node hi hp hx).1, List.forall_mem_cons]
    exact ⟨h _ (List.mem_of_getElem? hp), ih (level_length h)⟩
  | last hi _ hlast _ ih =>
    rw [(path_sides_last T.node hi hlast).1]
    exact ih (level_length h)
  | even hi _ hp _ ih =>
    rw [(path_sides_even T.node hi hp).1, List.forall_mem_cons]
    exact ⟨h _ (List.mem_of_getElem? hp), ih (level_length h)⟩

theorem root_length {leafHashes : List (List UInt8)} (hne : leafHashes ≠ [])
    (h : ∀ x ∈ leafHashes, x.length = 32) : (merkleRootV1 T leafHashes).length = 32 := by
  match leafHashes, hne with
  | [a], _ => simpa [merkleRootV1] using h
  | a :: b :: rest, _ =>
    rw [merkleRootV1]
    exact T.length_node _ _

/-- A path of at most 64 nodes is accepted. -/
theorem path_accepted {leafHashes : List (List UInt8)} (hleaves : ∀ x ∈ leafHashes, x.length = 32)
    {i : ℕ} (hi : i < leafHashes.length)
    (hbound : (path T.node leafHashes i).length ≤ maxHeadProofNodesV1) :
    verifyMerkleInclusionV1 T leafHashes[i] i leafHashes.length (path T.node leafHashes i)
      (merkleRootV1 T leafHashes) = .ok () := by
  have hplace := ascent_of_get T.node (List.getElem?_eq_getElem hi)
  have hroot := root_length (T := T) (List.ne_nil_of_length_pos (by omega)) hleaves
  rw [verifyMerkleInclusionV1_eq_ok]
  refine ⟨hleaves _ (List.getElem_mem hi), hroot, by omega, by exact_mod_cast hi, hbound,
    path_length hplace hleaves, ?_, ?_⟩
  · simpa using hplace.length_path
  · simpa [merkleRootV1_eq] using hplace.ascend_path T.node T.empty

/-- Completeness of inclusion proofs : for every tree of 32-byte leaf hashes and every index
of it, the verifier accepts what the prover returns, if that has at most 64 nodes. -/
theorem inclusion_complete (T : TreeHash) (leafHashes : List (List UInt8))
    (hleaves : ∀ x ∈ leafHashes, x.length = 32) (i : ℕ) (hi : i < leafHashes.length) :
    ∃ proof, merkleInclusionProofV1 T leafHashes i = .ok proof ∧
      (proof.length ≤ maxHeadProofNodesV1 →
        verifyMerkleInclusionV1 T leafHashes[i] i leafHashes.length proof
          (merkleRootV1 T leafHashes) = .ok ()) :=
  ⟨_, merkleInclusionProofV1_eq hi, path_accepted hleaves hi⟩

/-- A hash function for samples. -/
def sampleTreeHash : TreeHash :=
  merkleTreeHash fun bytes => BitVec.ofNat 256
    (bytes.data.toList.foldl (fun h b => 257 * h + b.toNat) 1)

/-- Three leaf hashes. -/
def sampleLeafHashes : List (List UInt8) :=
  [List.replicate 32 1, List.replicate 32 2, List.replicate 32 3]

/-- The last of three leaves. -/
theorem inclusion_complete_sample :
    ∃ proof, merkleInclusionProofV1 sampleTreeHash sampleLeafHashes 2 = .ok proof ∧
      verifyMerkleInclusionV1 sampleTreeHash (List.replicate 32 3) 2 3 proof
        (merkleRootV1 sampleTreeHash sampleLeafHashes) = .ok () := by
  obtain ⟨proof, hproof, haccepted⟩ :=
    inclusion_complete sampleTreeHash sampleLeafHashes (by decide) 2 (by decide)
  refine ⟨proof, hproof, haccepted ?_⟩
  have hplace := ascent_of_get sampleTreeHash.node (show sampleLeafHashes[2]? = some _ from rfl)
  obtain rfl := Except.ok.inj ((merkleInclusionProofV1_eq (by decide)).symm.trans hproof)
  rw [hplace.length_path]
  simp [sampleLeafHashes, sides, maxHeadProofNodesV1]

/-! ## Binding of inclusion proofs -/

theorem collision_of_collide {P Q : List (List UInt8 × List UInt8)} (h : Collide T.node P Q)
    (hP : ∀ x ∈ P, IsChildPair x) (hQ : ∀ x ∈ Q, IsChildPair x) : Collision T P Q := by
  obtain ⟨x, hx, y, hy, hne, heq⟩ := h
  exact ⟨x, hx, y, hy, hP x hx, hQ y hy, hne, heq⟩

theorem inclusionLoopPairs_eq {i last : ℕ} {proof : List (List UInt8)} {x : List UInt8}
    (hle : i ≤ last) (hlength : proof.length = (sides i last).length) :
    inclusionLoopPairs T i last proof x = ascentPairs T.node (sides i last) proof x := by
  induction proof generalizing i last x with
  | nil =>
    rw [List.length_eq_zero_iff.mp hlength.symm]
    rfl
  | cons node proof ih =>
    have hlast : last ≠ 0 := by
      rintro rfl
      simp [sides_zero] at hlength
    rcases loop_sides hle hlast with ⟨hcond, j, l, hshift, hjl, hsides⟩ | ⟨hcond, hjl, hsides⟩
    · rw [hsides, List.length_cons, List.length_cons, Nat.add_right_cancel_iff] at hlength
      rw [inclusionLoopPairs, if_pos hcond, hshift, hsides, ascentPairs, ← ih hjl hlength]
      rfl
    · rw [hsides, List.length_cons, List.length_cons, Nat.add_right_cancel_iff] at hlength
      rw [inclusionLoopPairs, if_neg hcond, hsides, ascentPairs, ← ih hjl hlength]
      rfl

theorem ascentPairs_isChildPair {s : List Side} {proof : List (List UInt8)} {x : List UInt8}
    (hproof : ∀ node ∈ proof, node.length = 32) (hx : x.length = 32) :
    ∀ q ∈ ascentPairs T.node s proof x, IsChildPair q := by
  induction s generalizing proof x with
  | nil => simp [ascentPairs]
  | cons side s ih =>
    cases proof with
    | nil => simp [ascentPairs]
    | cons node proof =>
      obtain ⟨hnode, hproof⟩ := List.forall_mem_cons.mp hproof
      rw [ascentPairs, List.forall_mem_cons]
      refine ⟨?_, ih hproof (T.length_node _ _)⟩
      cases side with
      | left => exact ⟨hnode, hx⟩
      | right => exact ⟨hx, hnode⟩

theorem merkleRootPairs_isChildPair {leafHashes : List (List UInt8)}
    (h : ∀ x ∈ leafHashes, x.length = 32) : ∀ q ∈ merkleRootPairs T leafHashes, IsChildPair q := by
  induction hn : leafHashes.length using Nat.strong_induction_on generalizing leafHashes with
  | _ n ih =>
    by_cases htwo : 2 ≤ leafHashes.length
    · obtain ⟨hpos, hlt⟩ := largestPowerOfTwoBelow_bounds htwo
      have htake := fun x hx => h x (List.mem_of_mem_take (i :=
        largestPowerOfTwoBelow leafHashes.length) hx)
      have hdrop := fun x hx => h x (List.mem_of_mem_drop (i :=
        largestPowerOfTwoBelow leafHashes.length) hx)
      have hlengthTake := List.length_take_of_le hlt.le
      have hlengthDrop := List.length_drop (i := largestPowerOfTwoBelow leafHashes.length)
        (l := leafHashes)
      rw [merkleRootPairs_of_two_le htwo]
      simp only [List.forall_mem_append, List.forall_mem_singleton]
      exact ⟨⟨ih _ (by omega) htake rfl, ih _ (by omega) hdrop rfl⟩,
        root_length (List.ne_nil_of_length_pos (by omega)) htake,
        root_length (List.ne_nil_of_length_pos (by omega)) hdrop⟩
    · match leafHashes, htwo with
      | [], _ => simp [merkleRootPairs]
      | [a], _ => simp [merkleRootPairs]
      | a :: b :: rest, htwo => simp at htwo

/-- Binding of inclusion proofs. Two accepted checks of one index, size and root have the same
leaf hash and the same nodes, and a check accepted against the root of a tree has the hash at
its index and the nodes that the prover returns ; otherwise the computations exhibit a
collision. -/
theorem inclusion_binds (T : TreeHash) :
    (∀ (leafIndex treeSize : ℤ) (rootHash leafHash leafHash' : List UInt8)
      (proof proof' : List (List UInt8)),
      verifyMerkleInclusionV1 T leafHash leafIndex treeSize proof rootHash = .ok () →
      verifyMerkleInclusionV1 T leafHash' leafIndex treeSize proof' rootHash = .ok () →
      (leafHash = leafHash' ∧ proof = proof') ∨
        Collision T (inclusionPairs T leafHash leafIndex treeSize proof)
          (inclusionPairs T leafHash' leafIndex treeSize proof')) ∧
    ∀ leafHashes : List (List UInt8), (∀ x ∈ leafHashes, x.length = 32) →
      ∀ (leafIndex : ℤ) (leafHash : List UInt8) (proof : List (List UInt8)),
        verifyMerkleInclusionV1 T leafHash leafIndex leafHashes.length proof
          (merkleRootV1 T leafHashes) = .ok () →
        ∃ honest, merkleInclusionProofV1 T leafHashes leafIndex.toNat = .ok honest ∧
          ((leafHashes[leafIndex.toNat]? = some leafHash ∧ proof = honest) ∨
            Collision T (inclusionPairs T leafHash leafIndex leafHashes.length proof)
              (merkleRootPairs T leafHashes)) := by
  constructor
  · intro leafIndex treeSize rootHash leafHash leafHash' proof proof' h h'
    obtain ⟨hleaf, -, hlow, hhigh, -, hnodes, hlength, hascend⟩ :=
      verifyMerkleInclusionV1_eq_ok.mp h
    obtain ⟨hleaf', -, -, -, -, hnodes', hlength', hascend'⟩ :=
      verifyMerkleInclusionV1_eq_ok.mp h'
    have hlast : (treeSize - 1).toNat = treeSize.toNat - 1 := by omega
    refine (ascend_binds T.node hlength hlength' (hascend.trans hascend'.symm)).imp_right
      fun hcollide => ?_
    rw [inclusionPairs, inclusionPairs, hlast, inclusionLoopPairs_eq (by omega) hlength,
      inclusionLoopPairs_eq (by omega) hlength']
    exact collision_of_collide hcollide (ascentPairs_isChildPair hnodes hleaf)
      (ascentPairs_isChildPair hnodes' hleaf')
  · intro leafHashes hleaves leafIndex leafHash proof h
    obtain ⟨hleaf, -, hlow, hhigh, -, hnodes, hlength, hascend⟩ :=
      verifyMerkleInclusionV1_eq_ok.mp h
    have hlast : ((leafHashes.length : ℤ) - 1).toNat = leafHashes.length - 1 := by omega
    have hlt : leafIndex.toNat < leafHashes.length := by omega
    have hplace := ascent_of_get T.node (List.getElem?_eq_getElem hlt)
    refine ⟨_, merkleInclusionProofV1_eq hlt, ?_⟩
    rw [Int.toNat_natCast] at hlength hascend
    rw [merkleRootV1_eq, ← hplace.ascend_path T.node T.empty] at hascend
    rcases ascend_binds T.node hlength hplace.length_path hascend with ⟨rfl, rfl⟩ | hcollide
    · exact .inl ⟨List.getElem?_eq_getElem hlt, rfl⟩
    · rw [inclusionPairs, hlast, inclusionLoopPairs_eq (by omega) hlength]
      exact .inr (collision_of_collide (hcollide.mono (List.Subset.refl _)
        (List.Subset.trans hplace.ascentPairs_subset (topPairs_subset _)))
        (ascentPairs_isChildPair hnodes hleaf) (merkleRootPairs_isChildPair hleaves))

/-- The last of the three leaves, with its path, is accepted. -/
theorem sampleLeaf_accepted :
    verifyMerkleInclusionV1 sampleTreeHash (List.replicate 32 3) 2 sampleLeafHashes.length
      (path sampleTreeHash.node sampleLeafHashes 2)
      (merkleRootV1 sampleTreeHash sampleLeafHashes) = .ok () := by
  refine @path_accepted sampleTreeHash sampleLeafHashes (by decide) 2 (by decide) ?_
  rw [(ascent_of_get sampleTreeHash.node (i := 2) rfl).length_path]
  simp [sampleLeafHashes, sides, maxHeadProofNodesV1]

/-- A hash that adds up its bytes. -/
def checksumTreeHash : TreeHash :=
  merkleTreeHash fun bytes => BitVec.ofNat 256 (bytes.data.toList.map UInt8.toNat).sum

/-- A leaf hash with the sum of the first of the three. -/
def sampleForgedLeaf : List UInt8 := 2 :: 0 :: List.replicate 30 1

/-- Two leaf hashes of one sum are accepted at one place. -/
theorem sampleForgedLeaf_accepted : ∀ leafHash ∈ [List.replicate 32 1, sampleForgedLeaf],
    verifyMerkleInclusionV1 checksumTreeHash leafHash 0 2 [List.replicate 32 2]
      (checksumTreeHash.node (List.replicate 32 1) (List.replicate 32 2)) = .ok () := by
  intro leafHash hleaf
  refine verifyMerkleInclusionV1_eq_ok.mpr ?_
  revert leafHash
  decide +kernel

/-- A leaf hash of the same sum is accepted in the place of another, and the two computations
exhibit the collision ; and the last of three leaves is bound with its path. -/
theorem inclusion_binds_sample :
    Collision checksumTreeHash
        (inclusionPairs checksumTreeHash (List.replicate 32 1) 0 2 [List.replicate 32 2])
        (inclusionPairs checksumTreeHash sampleForgedLeaf 0 2 [List.replicate 32 2]) ∧
    ∃ honest, merkleInclusionProofV1 sampleTreeHash sampleLeafHashes 2 = .ok honest ∧
      ((sampleLeafHashes[2]? = some (List.replicate 32 3) ∧
          path sampleTreeHash.node sampleLeafHashes 2 = honest) ∨
        Collision sampleTreeHash
          (inclusionPairs sampleTreeHash (List.replicate 32 3) 2 sampleLeafHashes.length
            (path sampleTreeHash.node sampleLeafHashes 2))
          (merkleRootPairs sampleTreeHash sampleLeafHashes)) := by
  have hcollides := ((inclusion_binds checksumTreeHash).1 _ _ _ _ _ _ _
    (sampleForgedLeaf_accepted (List.replicate 32 1) (by simp))
    (sampleForgedLeaf_accepted sampleForgedLeaf (by simp))).resolve_left
      fun h => absurd h.1 (by decide)
  exact ⟨hcollides, (inclusion_binds sampleTreeHash).2 _ (by decide) _ _ _ sampleLeaf_accepted⟩

/-! ## Consistency proofs -/

/-- The subproof of an even size is that of half of it, one level up. -/
theorem merkleSubproof_level {leafHashes : List (List UInt8)} {q : ℕ} (hq : 0 < q)
    (hle : 2 * q ≤ leafHashes.length) (complete : Bool) :
    merkleSubproof T leafHashes (2 * q) complete =
      merkleSubproof T (level T.node leafHashes) q complete := by
  induction hn : leafHashes.length using Nat.strong_induction_on
    generalizing leafHashes q complete with
  | _ n ih =>
    have hlevel := length_level T.node leafHashes
    by_cases heq : 2 * q = leafHashes.length
    · have heq' : q = (level T.node leafHashes).length := by omega
      rw [merkleSubproof, if_pos heq, merkleSubproof, if_pos heq', merkleRootV1_eq, merkleRootV1_eq,
        top_level]
    obtain ⟨k, -, hlow, hhigh⟩ := largestPowerOfTwoBelow_spec
      (show 2 ≤ (level T.node leafHashes).length by omega)
    have hpow := pow_succ 2 k
    have hpow' := pow_succ 2 (k + 1)
    have hpos := Nat.two_pow_pos k
    have hsplit := largestPowerOfTwoBelow_eq (show 2 ^ (k + 1) < leafHashes.length by omega)
      (by omega)
    have htake : (leafHashes.take (2 ^ (k + 1))).length = 2 ^ (k + 1) :=
      List.length_take_of_le (by omega)
    have hdrop : (leafHashes.drop (2 ^ (k + 1))).length = leafHashes.length - 2 ^ (k + 1) :=
      List.length_drop
    rw [merkleSubproof, if_neg heq, dif_neg (by omega), hsplit, merkleSubproof,
      if_neg (by omega : q ≠ (level T.node leafHashes).length), dif_neg (by omega),
      largestPowerOfTwoBelow_eq hlow hhigh]
    simp only [take_level, drop_level, ← pow_succ', merkleRootV1_eq, top_level]
    by_cases hleft : q ≤ 2 ^ k
    · rw [if_pos hleft, if_pos (by omega), ih _ (by omega) hq (by omega) complete htake]
    · rw [if_neg hleft, if_neg (by omega), show 2 * q - 2 ^ (k + 1) = 2 * (q - 2 ^ k) by omega,
        ih _ (by omega) (by omega) (by omega) false hdrop]

theorem merkleSubproof_levels {leafHashes : List (List UInt8)} {s q : ℕ} (hq : 0 < q)
    (hle : 2 ^ s * q ≤ leafHashes.length) (complete : Bool) :
    merkleSubproof T leafHashes (2 ^ s * q) complete =
      merkleSubproof T (levels T.node s leafHashes) q complete := by
  induction s generalizing leafHashes with
  | zero => simp
  | succ s ih =>
    have hpow := Nat.two_pow_pos s
    rw [pow_succ', mul_assoc] at hle ⊢
    rw [merkleSubproof_level (Nat.mul_pos hpow hq) hle, levels_succ,
      ih (by rw [length_level]; omega)]

/-- The subproof of an odd size is the hash of its last leaf, unless it is known, and the path
of this leaf. -/
theorem merkleSubproof_odd {leafHashes : List (List UInt8)} {j : ℕ} {x : List UInt8}
    (hx : leafHashes[2 * j]? = some x)
    (hlt : leafHashes.length = 1 ∨ 2 * j + 1 < leafHashes.length) (complete : Bool) :
    merkleSubproof T leafHashes (2 * j + 1) complete =
      (if j = 0 ∧ complete = true then [] else [x]) ++ path T.node leafHashes (2 * j) := by
  induction hn : leafHashes.length using Nat.strong_induction_on
    generalizing leafHashes j complete with
  | _ n ih =>
    by_cases hone : leafHashes.length = 1
    · obtain ⟨a, rfl⟩ := List.length_eq_one_iff.mp hone
      obtain ⟨hj, hget⟩ := List.getElem?_eq_some_iff.mp hx
      obtain rfl : j = 0 := by
        simp only [List.length_singleton] at hj
        omega
      obtain rfl : a = x := by simpa using hget
      rw [merkleSubproof, if_pos (by simp), path_singleton]
      cases complete <;> simp [merkleRootV1]
    obtain ⟨k, hk, hlow, hhigh⟩ := largestPowerOfTwoBelow_spec
      (show 2 ≤ leafHashes.length by omega)
    have hpos := Nat.two_pow_pos k
    have htake : (leafHashes.take (2 ^ k)).length = 2 ^ k := List.length_take_of_le hlow.le
    have hdrop : (leafHashes.drop (2 ^ k)).length = leafHashes.length - 2 ^ k := List.length_drop
    -- A largest power of two that is odd is 1, the size of one leaf.
    have hparity : 2 ^ k = 1 ∨ 2 ^ k % 2 = 0 := by
      cases k with
      | zero => exact .inl rfl
      | succ k => exact .inr (by omega)
    rw [merkleSubproof, if_neg (by omega), dif_neg (by omega), hk]
    simp only [merkleRootV1_eq]
    by_cases hleft : 2 * j + 1 ≤ 2 ^ k
    · have hx' : (leafHashes.take (2 ^ k))[2 * j]? = some x := by
        rw [List.getElem?_take_of_lt (by omega), hx]
      rw [if_pos hleft, ih _ (by omega) hx' (by omega) complete htake,
        path_split_left T.node T.empty hlow hhigh (by omega), List.append_assoc]
    · obtain ⟨r, hr⟩ : ∃ r, 2 ^ k = 2 * r := ⟨2 ^ k / 2, by omega⟩
      have hx' : (leafHashes.drop (2 ^ k))[2 * (j - r)]? = some x := by
        rw [List.getElem?_drop, ← hx]
        congr 1
        omega
      rw [if_neg hleft, show 2 * j + 1 - 2 ^ k = 2 * (j - r) + 1 by omega,
        ih _ (by omega) hx' (by omega) false hdrop, if_neg (by simp),
        path_split_right T.node T.empty (i := 2 * j) (by omega) (by omega) hhigh,
        show 2 * j - 2 ^ k = 2 * (j - r) by omega, if_neg fun h => by omega, List.append_assoc]

/-- The loop of `verify_merkle_consistency_v1` computes what the nodes on the left lead to
beside what all of them lead to. -/
theorem consistencyLoop_eq_ok {i last : ℕ} {proof : List (List UInt8)}
    {x y first second : List UInt8} (hle : i ≤ last) :
    (∃ s, proof.foldlM (consistencyStep T) ⟨i, last, x, y⟩ = .ok s ∧ s.lastIndex = 0 ∧
      s.computedFirst = first ∧ s.computedSecond = second) ↔
    (∀ node ∈ proof, node.length = 32) ∧ proof.length = (sides i last).length ∧
      ascendLeft T.node (leftNodes (sides i last) proof) x = first ∧
      ascend T.node (sides i last) proof y = second := by
  induction proof generalizing i last x y with
  | nil =>
    by_cases hlast : last = 0
    · subst hlast
      simp [pure, Except.pure, sides_zero, ascend, leftNodes, ascendLeft]
    · have hne := sides_ne_nil hle hlast
      simp [pure, Except.pure, hlast, hne, eq_comm (a := 0)]
  | cons node proof ih =>
    simp only [foldlM_cons_eq_ok, consistencyStep, unit_bind_eq_ok, refuseIf_eq_ok, not_not,
      List.forall_mem_cons]
    by_cases hlast : last = 0
    · subst hlast
      simp [sides_zero]
    rcases loop_sides hle hlast with ⟨hcond, j, l, hshift, hjl, hsides⟩ | ⟨hcond, hjl, hsides⟩
    · rw [hsides, List.length_cons, List.length_cons, Nat.add_right_cancel_iff]
      simp only [if_pos hcond, hshift, pure, Except.pure, Except.ok.injEq, hlast, not_false_eq_true,
        true_and, ascend, Side.order, leftNodes]
      rw [and_assoc]
      change _ ↔ _ ∧ _ ∧ _ ∧ ascendLeft T.node (leftNodes _ proof) (T.node node x) = first ∧ _
      rw [← ih hjl]
      grind
    · rw [hsides, List.length_cons, List.length_cons, Nat.add_right_cancel_iff]
      simp only [if_neg hcond, pure, Except.pure, Except.ok.injEq, hlast, not_false_eq_true,
        true_and, ascend, Side.order, leftNodes]
      rw [and_assoc, ← ih hjl]
      grind

/-- The trailing zeros of a size are those of its power of two. -/
theorem trailingZeros_eq (s j : ℕ) : trailingZeros ((2 ^ s * (2 * j + 1) : ℕ) : ℤ) = s := by
  have heven (a : ℤ) : Int.bit false a = 2 * a := by simp [Int.bit_val]
  have hodd (a : ℤ) : Int.bit true a = 2 * a + 1 := by simp [Int.bit_val]
  have hland : Int.land ((2 ^ s * (2 * j + 1) : ℕ) : ℤ) (-((2 ^ s * (2 * j + 1) : ℕ) : ℤ)) =
      (2 ^ s : ℕ) := by
    induction s with
    | zero =>
      have hself : Nat.ldiff j j = 0 := Nat.eq_of_testBit_eq fun k => by simp [Nat.testBit_ldiff]
      have hpos : ((2 ^ 0 * (2 * j + 1) : ℕ) : ℤ) = 2 * (j : ℤ) + 1 := by
        push_cast
        ring
      have hneg : -(2 * (j : ℤ) + 1) = 2 * Int.negSucc j + 1 := by
        rw [Int.negSucc_eq]
        ring
      rw [hpos, hneg, ← hodd, ← hodd, Int.land_bit, Bool.and_self, hodd]
      change 2 * ((Nat.ldiff j j : ℕ) : ℤ) + 1 = _
      rw [hself]
      norm_num
    | succ s ih =>
      have hdouble : ((2 ^ (s + 1) * (2 * j + 1) : ℕ) : ℤ) =
          2 * ((2 ^ s * (2 * j + 1) : ℕ) : ℤ) := by
        push_cast
        ring
      rw [hdouble, ← mul_neg, ← heven, ← heven, Int.land_bit, ih, Bool.and_self, heven]
      push_cast
      ring
  rw [trailingZeros, hland, Int.toNat_natCast, Nat.size_pow, Nat.add_sub_cancel]

theorem consistencySeed_eq_ok {nodeIndex : ℕ} {firstRoot seed : List UInt8}
    {proof remaining : List (List UInt8)} :
    consistencySeed nodeIndex firstRoot proof = .ok (seed, remaining) ↔
      (nodeIndex = 1 ∧ proof ≠ [] ∧ seed = firstRoot ∧ remaining = proof) ∨
      (nodeIndex ≠ 1 ∧ seed.length = 32 ∧ proof = seed :: remaining) := by
  cases proof with
  | nil => simp [consistencySeed]
  | cons node proof =>
    by_cases hone : nodeIndex = 1
    · simp [consistencySeed, hone, eq_comm]
    · rw [consistencySeed, if_neg hone, unit_bind_eq_ok, refuseIf_eq_ok, not_not]
      simp only [pure, Except.pure, Except.ok.injEq, Prod.mk.injEq, List.cons.injEq, hone]
      grind

/-- The sizes 1, 2, … are a power of two times an odd number. -/
theorem exists_odd_part {m : ℕ} (hm : 0 < m) : ∃ s j, m = 2 ^ s * (2 * j + 1) := by
  obtain ⟨s, q, ⟨j, rfl⟩, rfl⟩ := Nat.exists_eq_two_pow_mul_odd hm.ne'
  exact ⟨s, j, rfl⟩

/-- `verify_merkle_consistency_v1` of a grown tree : from the seed, the nodes lead to the
second root along the sides of the last complete subtree, and those on the left to the first. -/
theorem verifyMerkleConsistencyV1_grown {s j : ℕ} {firstRoot secondRoot : List UInt8}
    {secondSize : ℤ} {proof : List (List UInt8)}
    (hlt : ((2 ^ s * (2 * j + 1) : ℕ) : ℤ) < secondSize) :
    verifyMerkleConsistencyV1 T ((2 ^ s * (2 * j + 1) : ℕ) : ℤ) firstRoot secondSize secondRoot
        proof = .ok () ↔
      firstRoot.length = 32 ∧ secondRoot.length = 32 ∧ proof.length ≤ maxHeadProofNodesV1 ∧
      ∃ seed remaining,
        consistencySeed (2 * j + 1) firstRoot proof = .ok (seed, remaining) ∧
        (∀ node ∈ remaining, node.length = 32) ∧
        remaining.length = (sides (2 * j) ((secondSize.toNat - 1) / 2 ^ s)).length ∧
        ascendLeft T.node (leftNodes (sides (2 * j) ((secondSize.toNat - 1) / 2 ^ s)) remaining)
          seed = firstRoot ∧
        ascend T.node (sides (2 * j) ((secondSize.toNat - 1) / 2 ^ s)) remaining seed =
          secondRoot := by
  have hpow := Nat.two_pow_pos s
  have hpos : 0 < 2 ^ s * (2 * j + 1) := Nat.mul_pos hpow (Nat.succ_pos _)
  have hindex : (2 ^ s * (2 * j + 1)) >>> s = 2 * j + 1 := by
    rw [Nat.shiftRight_eq_div_pow, Nat.mul_div_cancel_left _ hpow]
  have hlast : (secondSize - 1).toNat >>> s = (secondSize.toNat - 1) / 2 ^ s := by
    rw [Nat.shiftRight_eq_div_pow]
    congr 1
    omega
  have hle : 2 * j ≤ (secondSize.toNat - 1) / 2 ^ s := by
    have hmul : 2 ^ s * (2 * j) ≤ 2 ^ s * (2 * j + 1) := Nat.mul_le_mul_left _ (Nat.le_succ _)
    rw [Nat.le_div_iff_mul_le hpow, mul_comm]
    generalize 2 ^ s * (2 * j + 1) = m at hmul hlt
    omega
  simp only [verifyMerkleConsistencyV1, trailingZeros_eq, Int.toNat_natCast, hindex, hlast,
    Nat.add_sub_cancel, bind_eq_ok, refuseIf_eq_ok, exists_const, not_not, not_le, not_lt,
    if_neg hlt.ne, Prod.exists]
  constructor
  · rintro ⟨hfirst, hsecond, -, -, hbound, -, seed, remaining, hseed, st, hst, hzero, h₁, h₂⟩
    exact ⟨hfirst, hsecond, hbound, seed, remaining, hseed,
      (consistencyLoop_eq_ok hle).mp ⟨st, hst, hzero, h₁, h₂⟩⟩
  · rintro ⟨hfirst, hsecond, hbound, seed, remaining, hseed, hrest⟩
    obtain ⟨st, hst, hzero, h₁, h₂⟩ := (consistencyLoop_eq_ok hle).mpr hrest
    exact ⟨hfirst, hsecond, by omega, by omega, hbound, hlt.le, seed, remaining, hseed, st, hst,
      hzero, h₁, h₂⟩

/-- The last complete subtree of the first leaves, in the level of its height : its place, and
the root of these leaves from there. -/
theorem grown_place {leafHashes : List (List UInt8)} {s j : ℕ}
    (hlt : 2 ^ s * (2 * j + 1) < leafHashes.length) :
    ∃ x, (levels T.node s leafHashes)[2 * j]? = some x ∧
      (levels T.node s leafHashes).length - 1 = (leafHashes.length - 1) / 2 ^ s ∧
      2 * j + 1 < (levels T.node s leafHashes).length ∧
      merkleRootV1 T (leafHashes.take (2 ^ s * (2 * j + 1))) =
        top T.node T.empty ((levels T.node s leafHashes).take (2 * j + 1)) := by
  have hne : leafHashes ≠ [] := List.ne_nil_of_length_pos (by omega)
  have hlength := length_levels T.node hne s
  have hle : 2 * j + 1 ≤ (leafHashes.length - 1) / 2 ^ s := by
    rw [Nat.le_div_iff_mul_le (Nat.two_pow_pos s), mul_comm]
    omega
  generalize hq : (leafHashes.length - 1) / 2 ^ s = q at hlength hle
  refine ⟨_, List.getElem?_eq_getElem (by omega), by omega, by omega, ?_⟩
  rw [take_levels, top_levels, merkleRootV1_eq]

/-- A subproof of at most 64 nodes is accepted. -/
theorem subproof_accepted {leafHashes : List (List UInt8)}
    (hleaves : ∀ x ∈ leafHashes, x.length = 32) {m : ℕ} (hm : 1 ≤ m) (hle : m ≤ leafHashes.length)
    (hbound : (merkleSubproof T leafHashes m true).length ≤ maxHeadProofNodesV1) :
    verifyMerkleConsistencyV1 T m (merkleRootV1 T (leafHashes.take m)) leafHashes.length
      (merkleRootV1 T leafHashes) (merkleSubproof T leafHashes m true) = .ok () := by
  have hfirst : (merkleRootV1 T (leafHashes.take m)).length = 32 :=
    root_length (List.ne_nil_of_length_pos (by rw [List.length_take_of_le hle]; omega))
      fun x hx => hleaves x (List.mem_of_mem_take hx)
  have hsecond : (merkleRootV1 T leafHashes).length = 32 :=
    root_length (List.ne_nil_of_length_pos (by omega)) hleaves
  rcases hle.eq_or_lt with rfl | hlt
  · rw [merkleSubproof, if_pos rfl, if_pos rfl] at hbound ⊢
    simp only [verifyMerkleConsistencyV1, bind_eq_ok, refuseIf_eq_ok, exists_const]
    refine ⟨by simpa using hfirst, by simpa using hsecond, by omega, by omega, by omega,
      by omega, ?_⟩
    simp
  obtain ⟨s, j, rfl⟩ := exists_odd_part hm
  obtain ⟨x, hx, hlast, hlevel, hroot⟩ := grown_place (T := T) hlt
  have hplace := ascent_of_get T.node hx
  have hnodes := path_length hplace (levels_length hleaves s)
  have hlength := hplace.length_path
  have htop := hplace.ascend_path T.node T.empty
  have htake := hplace.top_take T.node T.empty hx
  rw [hlast] at hlength htop htake
  rw [merkleSubproof_levels (Nat.succ_pos _) hle, merkleSubproof_odd hx (.inr hlevel)] at hbound ⊢
  rw [verifyMerkleConsistencyV1_grown (by exact_mod_cast hlt), Int.toNat_natCast]
  refine ⟨hfirst, hsecond, hbound, x, path T.node (levels T.node s leafHashes) (2 * j), ?_, hnodes,
    hlength, by rw [htake, hroot], by rw [htop, top_levels, merkleRootV1_eq]⟩
  rw [consistencySeed_eq_ok]
  by_cases hj : j = 0
  · subst hj
    have hone : merkleRootV1 T (leafHashes.take (2 ^ s * (2 * 0 + 1))) = x := by
      obtain ⟨hpos, rfl⟩ := List.getElem?_eq_some_iff.mp hx
      rw [hroot, List.take_succ_eq_append_getElem hpos]
      simp
    have hne : path T.node (levels T.node s leafHashes) (2 * 0) ≠ [] := by
      have hp := List.getElem?_eq_getElem hlevel
      rw [(path_sides_even T.node rfl hp).1]
      simp
    exact .inl ⟨rfl, by simpa using hne, hone.symm, by simp⟩
  · refine .inr ⟨by omega, levels_length hleaves s _ (List.mem_of_getElem? hx), ?_⟩
    rw [if_neg fun h => hj h.1, List.singleton_append]

/-- Completeness of consistency proofs : for every tree of 32-byte leaf hashes and every size
from 1 to its own, the verifier accepts what the prover returns, if that has at most 64
nodes. -/
theorem consistency_complete (T : TreeHash) (leafHashes : List (List UInt8))
    (hleaves : ∀ x ∈ leafHashes, x.length = 32) (m : ℕ) (hm : 1 ≤ m) (hle : m ≤ leafHashes.length) :
    ∃ proof, merkleConsistencyProofV1 T leafHashes m = .ok proof ∧
      (proof.length ≤ maxHeadProofNodesV1 →
        verifyMerkleConsistencyV1 T m (merkleRootV1 T (leafHashes.take m)) leafHashes.length
          (merkleRootV1 T leafHashes) proof = .ok ()) := by
  refine ⟨merkleSubproof T leafHashes m true, ?_, subproof_accepted hleaves hm hle⟩
  rw [merkleConsistencyProofV1, refuseIf_bind_of_not (by omega)]
  rfl

/-- The subproof of the first two of the three leaves has one node. -/
theorem length_sampleSubproof :
    (merkleSubproof sampleTreeHash sampleLeafHashes 2 true).length ≤ maxHeadProofNodesV1 := by
  have hlevels := @merkleSubproof_levels sampleTreeHash sampleLeafHashes 1 1 (by decide) (by decide)
    true
  rw [show 2 = 2 ^ 1 * 1 from rfl, hlevels, show 1 = 2 * 0 + 1 from rfl,
    merkleSubproof_odd (j := 0) rfl (.inr (by decide)), List.length_append,
    (ascent_of_get sampleTreeHash.node (i := 2 * 0) rfl).length_path]
  simp [levels, sampleLeafHashes, sides, maxHeadProofNodesV1]

/-- Two leaves are the beginning of three. -/
theorem consistency_complete_sample :
    ∃ proof, merkleConsistencyProofV1 sampleTreeHash sampleLeafHashes 2 = .ok proof ∧
      verifyMerkleConsistencyV1 sampleTreeHash 2
        (merkleRootV1 sampleTreeHash (sampleLeafHashes.take 2)) 3
        (merkleRootV1 sampleTreeHash sampleLeafHashes) proof = .ok () := by
  obtain ⟨proof, hproof, haccepted⟩ :=
    consistency_complete sampleTreeHash sampleLeafHashes (by decide) 2 (by decide) (by decide)
  refine ⟨proof, hproof, haccepted ?_⟩
  rw [merkleConsistencyProofV1, refuseIf_bind_of_not (by decide)] at hproof
  obtain rfl := Except.ok.inj hproof
  exact length_sampleSubproof

/-- The second root is computed from pairs that `verify_merkle_consistency_v1` hashes. -/
theorem ascentPairs_subset_consistency {i last : ℕ} {proof : List (List UInt8)}
    {x y : List UInt8} (hle : i ≤ last) (hlength : proof.length = (sides i last).length) :
    ascentPairs T.node (sides i last) proof y ⊆ consistencyLoopPairs T i last proof x y := by
  induction proof generalizing i last x y with
  | nil =>
    rw [List.length_eq_zero_iff.mp hlength.symm]
    exact List.nil_subset _
  | cons node proof ih =>
    have hlast : last ≠ 0 := by
      rintro rfl
      simp [sides_zero] at hlength
    rcases loop_sides hle hlast with ⟨hcond, j, l, hshift, hjl, hsides⟩ | ⟨hcond, hjl, hsides⟩
    · rw [hsides, List.length_cons, List.length_cons, Nat.add_right_cancel_iff] at hlength
      rw [consistencyLoopPairs, if_pos hcond, hshift, hsides, ascentPairs]
      refine List.cons_subset.mpr ⟨List.mem_cons_of_mem _ List.mem_cons_self, ?_⟩
      exact fun q hq => List.mem_cons_of_mem _ (List.mem_cons_of_mem _ (ih hjl hlength hq))
    · rw [hsides, List.length_cons, List.length_cons, Nat.add_right_cancel_iff] at hlength
      rw [consistencyLoopPairs, if_neg hcond, hsides, ascentPairs]
      exact List.cons_subset_cons _ (ih hjl hlength)

/-- Soundness of consistency proofs : a check accepted against the root of a tree names a size
within it, and the first root is that of so many leaves, or the computations exhibit a
collision. -/
theorem consistency_binds (T : TreeHash) (leafHashes : List (List UInt8))
    (hleaves : ∀ x ∈ leafHashes, x.length = 32) (m : ℤ) (firstRoot : List UInt8)
    (proof : List (List UInt8))
    (h : verifyMerkleConsistencyV1 T m firstRoot leafHashes.length (merkleRootV1 T leafHashes)
      proof = .ok ()) :
    m ≤ leafHashes.length ∧
      (firstRoot = merkleRootV1 T (leafHashes.take m.toNat) ∨
        Collision T (consistencyPairs T m firstRoot leafHashes.length proof)
          (merkleRootPairs T leafHashes)) := by
  have hsizes : 0 < m ∧ m ≤ leafHashes.length := by
    simp only [verifyMerkleConsistencyV1, bind_eq_ok, refuseIf_eq_ok, exists_const, not_le,
      not_lt] at h
    exact ⟨h.2.2.1, h.2.2.2.2.2.1⟩
  refine ⟨hsizes.2, ?_⟩
  obtain ⟨m, rfl⟩ := Int.eq_ofNat_of_zero_le hsizes.1.le
  rw [Int.toNat_natCast]
  rcases hsizes.2.eq_or_lt with heq | hlt
  · rw [heq] at h
    simp only [verifyMerkleConsistencyV1, bind_eq_ok, refuseIf_eq_ok, exists_const, not_not,
      if_true] at h
    rw [Nat.cast_inj.mp heq, List.take_length]
    exact .inl h.2.2.2.2.2.2.2
  obtain ⟨s, j, rfl⟩ := exists_odd_part (by exact_mod_cast hsizes.1 : 0 < m)
  obtain ⟨hfirst, -, -, seed, remaining, hseed, hnodes, hlength, hleft, hascend⟩ :=
    (verifyMerkleConsistencyV1_grown hlt).mp h
  obtain ⟨x, hx, hlast, hlevel, hroot⟩ := grown_place (T := T) (by exact_mod_cast hlt)
  have hplace := ascent_of_get T.node hx
  have hpath := hplace.length_path
  have htop := hplace.ascend_path T.node T.empty
  rw [Int.toNat_natCast] at hlength hleft hascend
  rw [hlast] at hpath htop
  rw [top_levels, ← merkleRootV1_eq] at htop
  rcases ascend_binds T.node hlength hpath (hascend.trans htop.symm) with ⟨rfl, rfl⟩ | hcollide
  · rw [← hleft, hroot, ← hlast]
    exact .inl (hplace.top_take T.node T.empty hx)
  · have hseed32 : seed.length = 32 := by
      rcases consistencySeed_eq_ok.mp hseed with ⟨-, -, rfl, -⟩ | ⟨-, hseed32, -⟩
      · exact hfirst
      · exact hseed32
    have hpow := Nat.two_pow_pos s
    have hindex : (2 ^ s * (2 * j + 1)) >>> s = 2 * j + 1 := by
      rw [Nat.shiftRight_eq_div_pow, Nat.mul_div_cancel_left _ hpow]
    have hlastIndex : ((leafHashes.length : ℤ) - 1).toNat >>> s =
        (leafHashes.length - 1) / 2 ^ s := by
      rw [Nat.shiftRight_eq_div_pow]
      congr 1
      omega
    have hle : 2 * j ≤ (leafHashes.length - 1) / 2 ^ s := by
      rw [← hlast]
      omega
    rw [consistencyPairs]
    simp only [trailingZeros_eq, Int.toNat_natCast, hindex, hseed, hlastIndex, Nat.add_sub_cancel]
    have hsub := ascentPairs_subset_consistency (T := T) (x := seed) (y := seed) hle hlength
    have htree : ascentPairs T.node (sides (2 * j) ((leafHashes.length - 1) / 2 ^ s))
        (path T.node (levels T.node s leafHashes) (2 * j)) x ⊆ merkleRootPairs T leafHashes := by
      rw [← hlast]
      exact List.Subset.trans hplace.ascentPairs_subset
        (List.Subset.trans (topPairs_levels T.node s _) (topPairs_subset _))
    obtain ⟨a, ha, b, hb, hne, heq⟩ := hcollide
    exact .inr ⟨a, hsub ha, b, htree hb, ascentPairs_isChildPair hnodes hseed32 a ha,
      merkleRootPairs_isChildPair hleaves b (htree hb), hne, heq⟩

/-- The root of the first two of the leaves with its bytes turned round, which has the same sum. -/
def sampleForgedRoot : List UInt8 := 97 :: List.replicate 31 0

theorem sampleForgedRoot_accepted :
    verifyMerkleConsistencyV1 checksumTreeHash 2 sampleForgedRoot sampleLeafHashes.length
      (merkleRootV1 checksumTreeHash sampleLeafHashes) [List.replicate 32 3] = .ok () := by
  have hroot : merkleRootV1 checksumTreeHash sampleLeafHashes =
      checksumTreeHash.node (checksumTreeHash.node (List.replicate 32 1) (List.replicate 32 2))
        (List.replicate 32 3) := by
    simp [merkleRootV1_eq, sampleLeafHashes, top, level]
  rw [hroot]
  decide +kernel

/-- An accepted proof for two leaves of three. A root with the sum of the retained one is accepted
in its place, and the two computations exhibit the collision. -/
theorem consistency_binds_sample :
    ((2 : ℤ) ≤ sampleLeafHashes.length ∧
      (merkleRootV1 sampleTreeHash (sampleLeafHashes.take 2) =
          merkleRootV1 sampleTreeHash (sampleLeafHashes.take (2 : ℤ).toNat) ∨
        Collision sampleTreeHash
          (consistencyPairs sampleTreeHash 2
            (merkleRootV1 sampleTreeHash (sampleLeafHashes.take 2)) sampleLeafHashes.length
            (merkleSubproof sampleTreeHash sampleLeafHashes 2 true))
          (merkleRootPairs sampleTreeHash sampleLeafHashes))) ∧
    Collision checksumTreeHash
      (consistencyPairs checksumTreeHash 2 sampleForgedRoot sampleLeafHashes.length
        [List.replicate 32 3]) (merkleRootPairs checksumTreeHash sampleLeafHashes) := by
  refine ⟨consistency_binds sampleTreeHash sampleLeafHashes (by decide) 2 _ _
    (subproof_accepted (m := 2) (by decide) (by decide) (by decide) length_sampleSubproof), ?_⟩
  have hforged : sampleForgedRoot ≠ merkleRootV1 checksumTreeHash (sampleLeafHashes.take 2) := by
    rw [merkleRootV1_eq]
    simp only [sampleLeafHashes, List.take, top, level]
    decide +kernel
  exact (consistency_binds checksumTreeHash sampleLeafHashes (by decide) 2 sampleForgedRoot _
    sampleForgedRoot_accepted).2.resolve_left hforged

end Etzio
