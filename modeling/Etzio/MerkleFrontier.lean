import Etzio.MerkleProofs

/-!
# The Merkle frontier

`MerkleAppendStateV1` keeps a tree as the roots of its complete subtrees. Appending a leaf
carries it into them as 1 is carried into the size, and the two proofs of the new leaf are read
off the old peaks.

`frontier_refines` is the simulation : the state of leaves appended one at a time has the root
and the complete subtrees of `merkle_root_v1`, and each `append` returns what the provers return
on the whole tree. `frontier_recovered` is about `from_last_leaf` : an accepted proof of the last
leaf always has as many nodes as the constructor asks for, and the recovered state is the one
that appending would have built.
-/

open CheckedRun MerkleTrees

namespace Etzio

/-! ## The state -/

/-- `MAX_HEAD_TREE_SIZE_V1`. -/
def maxHeadTreeSizeV1 : ℕ := 1 <<< 48

/-- The exceptions of the frontier : its own, and those of the proof verifier. -/
inductive FrontierError
  | value (message : String)
  | proof (error : HeadAuthorityAdapterError)
  deriving DecidableEq, Repr

/-- `MerkleAppendStateV1` ; the fields after the peaks are what `__post_init__` checks. -/
@[ext] structure MerkleAppendStateV1 where
  treeSize : ℕ
  peaks : List (List UInt8)
  bounded : 1 ≤ treeSize ∧ treeSize ≤ maxHeadTreeSizeV1
  cover : peaks.length = popcount treeSize ∧ ∀ node ∈ peaks, node.length = 32

/-- The constructor of `MerkleAppendStateV1`. -/
def MerkleAppendStateV1.create (treeSize : ℕ) (peaks : List (List UInt8)) :
    Except FrontierError MerkleAppendStateV1 :=
  if bounded : 1 ≤ treeSize ∧ treeSize ≤ maxHeadTreeSizeV1 then
    if cover : peaks.length = popcount treeSize ∧ ∀ node ∈ peaks, node.length = 32 then
      .ok ⟨treeSize, peaks, bounded, cover⟩
    else .error (.value "Merkle append peaks must exactly cover the tree's binary decomposition")
  else .error (.value "Merkle append state requires a bounded positive tree size")

theorem popcount_pos {n : ℕ} (hn : 0 < n) : 0 < popcount n := by
  induction n using Nat.strong_induction_on with
  | _ n ih =>
    rcases Nat.mod_two_eq_zero_or_one n with heven | hodd
    · rw [popcount_even heven]
      exact ih _ (by omega) (by omega)
    · rw [popcount_odd hodd]
      omega

theorem MerkleAppendStateV1.peaks_ne_nil (s : MerkleAppendStateV1) : s.peaks ≠ [] :=
  List.ne_nil_of_length_pos (s.cover.1 ▸ popcount_pos s.bounded.1)

variable (T : TreeHash)

/-- `MerkleAppendStateV1.root_hash`. -/
def MerkleAppendStateV1.rootHash (s : MerkleAppendStateV1) : List UInt8 :=
  s.peaks.dropLast.reverse.foldl (fun root left => T.node left root)
    (s.peaks.getLast s.peaks_ne_nil)

/-- `MerkleAppendStateV1.from_last_leaf`. -/
def MerkleAppendStateV1.fromLastLeaf (treeSize : ℕ) (leafHash : List UInt8)
    (proof : List (List UInt8)) (rootHash : List UInt8) :
    Except FrontierError MerkleAppendStateV1 := do
  refuseIf (¬(1 ≤ treeSize ∧ treeSize ≤ maxHeadTreeSizeV1))
    (.value "Merkle reconstruction requires a bounded positive tree size")
  (verifyMerkleInclusionV1 T leafHash (treeSize - 1) treeSize proof rootHash).mapError .proof
  let trailingZeros := trailingZeros treeSize
  let rightmost := (proof.take trailingZeros).foldl (fun rightmost sibling =>
    T.node sibling rightmost) leafHash
  let state ← create treeSize ((proof.drop trailingZeros).reverse ++ [rightmost])
  refuseIf (state.rootHash T ≠ rootHash)
    (.value "reconstructed Merkle append state differs from its verified root")
  return state

/-- The loop of `append` over the trailing ones of the size. There is a peak for each of them,
so `pop` never meets an empty list. -/
def carryLoop (size : ℕ) (peaks : List (List UInt8)) (carry : List UInt8) : List (List UInt8) :=
  if size &&& 1 ≠ 0 then
    carryLoop (size >>> 1) peaks.dropLast (T.node (peaks.getLastD []) carry)
  else peaks ++ [carry]
termination_by size
decreasing_by
  rw [Nat.shiftRight_one]
  rw [Nat.and_one_is_mod] at *
  omega

/-- `MerkleAppendStateV1.append` : the successor with the inclusion proof of the new leaf and
the consistency proof of the predecessor. -/
def MerkleAppendStateV1.append (s : MerkleAppendStateV1) (leafHash : List UInt8) :
    Except FrontierError (MerkleAppendStateV1 × List (List UInt8) × List (List UInt8)) := do
  refuseIf (leafHash.length ≠ 32)
    (.value "Merkle append requires one immutable 32-byte leaf hash")
  refuseIf (s.treeSize = maxHeadTreeSizeV1)
    (.value "Merkle append would exceed the tree-size ceiling")
  let inclusion := s.peaks.reverse
  let consistency :=
    if s.treeSize &&& (s.treeSize - 1) = 0 then [leafHash]
    else s.peaks.getLast s.peaks_ne_nil :: leafHash :: s.peaks.dropLast.reverse
  let successor ← create (s.treeSize + 1) (carryLoop T s.treeSize s.peaks leafHash)
  return (successor, inclusion, consistency)

/-- The state of leaves appended one at a time, from the state of one leaf. -/
def appendLeaves (leafHash : List UInt8) (rest : List (List UInt8)) :
    Except FrontierError MerkleAppendStateV1 := do
  let s ← MerkleAppendStateV1.create 1 [leafHash]
  rest.foldlM (fun s leafHash => do
    let (successor, _, _) ← s.append T leafHash
    return successor) s

/-- The roots of the complete subtrees of a tree, by the binary decomposition of its size. -/
def completeSubtreeRoots : List (List UInt8) → List (List UInt8)
  | [] => []
  | leafHash :: rest =>
    let leafHashes := leafHash :: rest
    let size := 2 ^ Nat.log 2 leafHashes.length
    merkleRootV1 T (leafHashes.take size) :: completeSubtreeRoots (leafHashes.drop size)
termination_by leafHashes => leafHashes.length
decreasing_by
  have := Nat.two_pow_pos (Nat.log 2 (leafHash :: rest).length)
  simp only [List.length_drop, List.length_cons] at *
  omega

variable {T}

theorem completeSubtreeRoots_eq (leafHashes : List (List UInt8)) :
    completeSubtreeRoots T leafHashes = subtrees T.node T.empty leafHashes := by
  induction hn : leafHashes.length using Nat.strong_induction_on generalizing leafHashes with
  | _ n ih =>
    match leafHashes, hn with
    | [], _ => simp [completeSubtreeRoots]
    | leafHash :: rest, hn =>
      have hpow := Nat.two_pow_pos (Nat.log 2 (leafHash :: rest).length)
      have hdrop :
          ((leafHash :: rest).drop (2 ^ Nat.log 2 (leafHash :: rest).length)).length < n := by
        simp only [List.length_drop, List.length_cons] at *
        omega
      rw [completeSubtreeRoots, subtrees_of_ne T.node T.empty (by simp)]
      simp only [merkleRootV1_eq, ih _ hdrop _ rfl]

theorem appendState_eq_ok {treeSize : ℕ} {peaks : List (List UInt8)}
    (bounded : 1 ≤ treeSize ∧ treeSize ≤ maxHeadTreeSizeV1)
    (cover : peaks.length = popcount treeSize ∧ ∀ node ∈ peaks, node.length = 32) :
    MerkleAppendStateV1.create treeSize peaks = .ok ⟨treeSize, peaks, bounded, cover⟩ := by
  rw [MerkleAppendStateV1.create, dif_pos bounded, dif_pos cover]

/-! ## The state of a tree -/

theorem subtrees_length {leafHashes : List (List UInt8)} (h : ∀ x ∈ leafHashes, x.length = 32) :
    ∀ node ∈ subtrees T.node T.empty leafHashes, node.length = 32 := by
  induction leafHashes using level_induction T.node with
  | nil => simp
  | even xs hne hxs ih =>
    rw [← subtrees_level T.node T.empty hxs]
    exact ih (level_length h)
  | snoc xs a hxs ih =>
    rw [List.forall_mem_append, List.forall_mem_singleton] at h
    rw [subtrees_append_singleton T.node T.empty hxs, List.forall_mem_append,
      List.forall_mem_singleton]
    exact ⟨ih h.1, h.2⟩

/-- The leaf hashes of a tree within the size ceiling. -/
structure BoundedLeaves (leafHashes : List (List UInt8)) : Prop where
  ne_nil : leafHashes ≠ []
  size : leafHashes.length ≤ maxHeadTreeSizeV1
  length : ∀ x ∈ leafHashes, x.length = 32

/-- The state that keeps a tree. -/
def frontierOf (T : TreeHash) {leafHashes : List (List UInt8)} (h : BoundedLeaves leafHashes) :
    MerkleAppendStateV1 where
  treeSize := leafHashes.length
  peaks := subtrees T.node T.empty leafHashes
  bounded := ⟨List.length_pos_iff.mpr h.ne_nil, h.size⟩
  cover := ⟨length_subtrees T.node T.empty leafHashes, subtrees_length h.length⟩

/-- The root of the state is the root of the tree. -/
theorem rootHash_frontierOf {leafHashes : List (List UInt8)} (h : BoundedLeaves leafHashes) :
    (frontierOf T h).rootHash T = merkleRootV1 T leafHashes := by
  obtain ⟨larger, smallest, hpeaks, htop⟩ := exists_subtrees_top T.node T.empty h.ne_nil
  rw [merkleRootV1_eq, ← htop]
  simp only [MerkleAppendStateV1.rootHash, frontierOf, hpeaks, List.dropLast_concat,
    List.getLast_append_singleton]
  rfl

/-! ## Appending -/

theorem carryLoop_even {size : ℕ} (hsize : size % 2 = 0) (peaks : List (List UInt8))
    (carry : List UInt8) : carryLoop T size peaks carry = peaks ++ [carry] := by
  rw [carryLoop, if_neg (by rw [Nat.and_one_is_mod]; omega)]

theorem carryLoop_odd {size : ℕ} (hsize : size % 2 = 1) (peaks : List (List UInt8))
    (peak carry : List UInt8) :
    carryLoop T size (peaks ++ [peak]) carry =
      carryLoop T (size / 2) peaks (T.node peak carry) := by
  rw [carryLoop, if_pos (by rw [Nat.and_one_is_mod]; omega), Nat.shiftRight_one,
    List.dropLast_concat, List.getLastD_concat]

/-- The loop carries a leaf into the complete subtrees. -/
theorem carryLoop_subtrees (leafHashes : List (List UInt8)) (leafHash : List UInt8) :
    carryLoop T leafHashes.length (subtrees T.node T.empty leafHashes) leafHash =
      subtrees T.node T.empty (leafHashes ++ [leafHash]) := by
  induction hn : leafHashes.length using Nat.strong_induction_on
    generalizing leafHashes leafHash with
  | _ n ih =>
    rcases Nat.mod_two_eq_zero_or_one leafHashes.length with heven | hodd
    · rw [← hn, carryLoop_even heven, subtrees_append_singleton T.node T.empty heven]
    · obtain ⟨xs, x, rfl⟩ : ∃ xs x, leafHashes = xs ++ [x] := by
        have hne : leafHashes ≠ [] := by
          rintro rfl
          simp at hodd
        exact ⟨_, _, (List.dropLast_concat_getLast hne).symm⟩
      rw [List.length_append, List.length_singleton] at hn hodd
      have hxs : xs.length % 2 = 0 := by omega
      have hlevel : n / 2 = (level T.node xs).length := by
        rw [length_level]
        omega
      have heven : (xs ++ [x, leafHash]).length % 2 = 0 := by
        simp only [List.length_append, List.length_cons, List.length_nil]
        omega
      rw [subtrees_append_singleton T.node T.empty hxs, carryLoop_odd (by omega), hlevel,
        ← subtrees_level T.node T.empty hxs, ih _ (by omega) _ _ rfl, List.append_assoc,
        List.singleton_append, ← subtrees_level T.node T.empty heven, level_append T.node hxs,
        level_cons_cons, level_nil]

/-- A power of two divides a size : its level is not disturbed by a leaf behind it. -/
theorem levels_append_singleton {leafHashes : List (List UInt8)} {s : ℕ}
    (hs : 2 ^ s ∣ leafHashes.length) (leafHash : List UInt8) :
    levels T.node s (leafHashes ++ [leafHash]) = levels T.node s leafHashes ++ [leafHash] ∧
      subtrees T.node T.empty (levels T.node s leafHashes) =
        subtrees T.node T.empty leafHashes := by
  induction s generalizing leafHashes with
  | zero => exact ⟨rfl, rfl⟩
  | succ s ih =>
    obtain ⟨q, hq⟩ := hs
    rw [pow_succ', mul_assoc] at hq
    have heven : leafHashes.length % 2 = 0 := by omega
    have hlevel : 2 ^ s ∣ (level T.node leafHashes).length :=
      ⟨q, by rw [length_level]; omega⟩
    obtain ⟨hlevels, hsubtrees⟩ := ih hlevel
    rw [levels_succ, levels_succ, level_append T.node heven, level_singleton, hlevels, hsubtrees,
      subtrees_level T.node T.empty heven]
    exact ⟨rfl, rfl⟩

/-- A size is a power of two exactly when no larger bit is set. -/
theorem and_sub_one_eq_zero {s j : ℕ} :
    (2 ^ s * (2 * j + 1)) &&& (2 ^ s * (2 * j + 1) - 1) = 0 ↔ j = 0 := by
  have hpos : 2 ^ s * (2 * j + 1) ≠ 0 := (Nat.mul_pos (Nat.two_pow_pos s) (Nat.succ_pos _)).ne'
  rw [Nat.and_sub_one_eq_zero_iff_isPowerOfTwo hpos]
  constructor
  · rintro ⟨k, hk⟩
    have hdvd : 2 * j + 1 ∣ 2 ^ k := ⟨2 ^ s, by rw [← hk, mul_comm]⟩
    obtain ⟨i, -, hi⟩ := (Nat.dvd_prime_pow Nat.prime_two).mp hdvd
    cases i with
    | zero =>
      rw [pow_zero] at hi
      omega
    | succ i =>
      rw [pow_succ] at hi
      omega
  · rintro rfl
    exact ⟨s, by simp⟩

/-- What `append` returns as the consistency proof is the subproof of the predecessor. -/
theorem consistency_of_append {leafHashes : List (List UInt8)} (h : BoundedLeaves leafHashes)
    (leafHash : List UInt8) :
    (if leafHashes.length &&& (leafHashes.length - 1) = 0 then [leafHash]
      else (frontierOf T h).peaks.getLast (frontierOf T h).peaks_ne_nil :: leafHash ::
        (frontierOf T h).peaks.dropLast.reverse) =
      merkleSubproof T (leafHashes ++ [leafHash]) leafHashes.length true := by
  obtain ⟨s, j, hsize⟩ := exists_odd_part (List.length_pos_iff.mpr h.ne_nil)
  obtain ⟨hlevels, hsubtrees⟩ := levels_append_singleton (T := T) ⟨_, hsize⟩ leafHash
  have hpow := Nat.two_pow_pos s
  -- The level of the smallest complete subtree ends with its root.
  have hlength : (levels T.node s leafHashes).length = 2 * j + 1 := by
    have hquotient : (2 ^ s * (2 * j + 1) - 1) / 2 ^ s = 2 * j := by
      rw [Nat.div_eq_iff hpow]
      constructor <;> rw [Nat.mul_add] <;> rw [mul_comm (2 * j)] <;> omega
    rw [length_levels T.node h.ne_nil, hsize, hquotient]
  obtain ⟨xs, x, hxs⟩ : ∃ xs x, levels T.node s leafHashes = xs ++ [x] :=
    ⟨_, _, (List.dropLast_concat_getLast (levels_ne_nil T.node h.ne_nil s)).symm⟩
  have hj : xs.length = 2 * j := by
    rw [hxs, List.length_append, List.length_singleton] at hlength
    omega
  have heven : xs.length % 2 = 0 := by omega
  have hpeaks : (frontierOf T h).peaks = subtrees T.node T.empty xs ++ [x] := by
    change subtrees T.node T.empty leafHashes = _
    rw [← hsubtrees, hxs, subtrees_append_singleton T.node T.empty heven]
  have hlong : (xs ++ [x] ++ [leafHash]).length = 2 * j + 2 := by
    simp only [List.length_append, List.length_singleton]
    omega
  have hx : (xs ++ [x] ++ [leafHash])[2 * j]? = some x := by simp [← hj]
  have hleaf : (xs ++ [x] ++ [leafHash])[2 * j + 1]? = some leafHash := by simp [← hj]
  -- The path of this root : the new leaf, and the larger subtrees.
  have hpath : path T.node (xs ++ [x] ++ [leafHash]) (2 * j) =
      leafHash :: (subtrees T.node T.empty xs).reverse := by
    have hhalf : 2 * j / 2 = (level T.node xs).length := by
      rw [length_level]
      omega
    rw [(path_sides_even T.node (by omega) hleaf).1, List.append_assoc, level_append T.node heven,
      List.singleton_append, level_cons_cons, level_nil, hhalf,
      path_append_singleton T.node T.empty, subtrees_level T.node T.empty heven]
  have hle : 2 ^ s * (2 * j + 1) ≤ (leafHashes ++ [leafHash]).length := by
    rw [← hsize, List.length_append]
    omega
  rw [hsize, merkleSubproof_levels (Nat.succ_pos _) hle, hlevels, hxs,
    merkleSubproof_odd hx (.inr (by omega)), hpath]
  by_cases hzero : j = 0
  · subst hzero
    obtain rfl := List.length_eq_zero_iff.mp hj
    rw [if_pos (and_sub_one_eq_zero.mpr rfl)]
    simp
  · rw [if_neg (mt and_sub_one_eq_zero.mp hzero), if_neg fun h => hzero h.1]
    simp [hpeaks]

/-- `append` on the state of a tree : the state of the longer tree, with the proofs of the
provers. -/
theorem append_frontierOf {leafHashes : List (List UInt8)} (h : BoundedLeaves leafHashes)
    {leafHash : List UInt8} (h' : BoundedLeaves (leafHashes ++ [leafHash])) :
    (frontierOf T h).append T leafHash =
      .ok (frontierOf T h', path T.node (leafHashes ++ [leafHash]) leafHashes.length,
        merkleSubproof T (leafHashes ++ [leafHash]) leafHashes.length true) := by
  have hleaf : leafHash.length = 32 := h'.length _ (by simp)
  have hsize := h'.size
  rw [List.length_append, List.length_singleton] at hsize
  have hroom : (frontierOf T h).treeSize ≠ maxHeadTreeSizeV1 := by
    change leafHashes.length ≠ _
    omega
  have hcarry : carryLoop T leafHashes.length (subtrees T.node T.empty leafHashes) leafHash =
      (frontierOf T h').peaks := carryLoop_subtrees leafHashes leafHash
  have hbounded : 1 ≤ leafHashes.length + 1 ∧ leafHashes.length + 1 ≤ maxHeadTreeSizeV1 :=
    ⟨by omega, hsize⟩
  have hcover := (frontierOf T h').cover
  rw [show (frontierOf T h').treeSize = leafHashes.length + 1 by simp [frontierOf]] at hcover
  rw [MerkleAppendStateV1.append, refuseIf_bind_of_not (not_not.mpr hleaf),
    refuseIf_bind_of_not hroom]
  change (do
    let successor ← MerkleAppendStateV1.create (leafHashes.length + 1)
      (carryLoop T leafHashes.length (subtrees T.node T.empty leafHashes) leafHash)
    return (successor, (subtrees T.node T.empty leafHashes).reverse, if _ then _ else _)) = _
  rw [hcarry, bind_of_ok (appendState_eq_ok hbounded hcover), path_append_singleton T.node T.empty,
    ← consistency_of_append h leafHash]
  exact congrArg Except.ok (Prod.ext (MerkleAppendStateV1.ext (by simp [frontierOf]) rfl) rfl)

/-- Every beginning of bounded leaves is bounded. -/
theorem BoundedLeaves.beginning {leafHash : List UInt8} {rest more : List (List UInt8)}
    (h : BoundedLeaves (leafHash :: (rest ++ more))) : BoundedLeaves (leafHash :: rest) where
  ne_nil := by simp
  size := by
    have := h.size
    simp only [List.length_cons, List.length_append] at this ⊢
    omega
  length x hx := h.length x (by
    rcases List.mem_cons.mp hx with rfl | hx
    · exact List.mem_cons_self
    · exact List.mem_cons_of_mem _ (List.mem_append_left _ hx))

/-- The state of leaves appended one at a time is the state that keeps them. -/
theorem appendLeaves_eq {leafHash : List UInt8} {rest : List (List UInt8)}
    (h : BoundedLeaves (leafHash :: rest)) :
    appendLeaves T leafHash rest = .ok (frontierOf T h) := by
  have hone : BoundedLeaves [leafHash] := @BoundedLeaves.beginning leafHash [] rest h
  have hstart : MerkleAppendStateV1.create 1 [leafHash] = .ok (frontierOf T hone) := by
    rw [appendState_eq_ok ⟨le_rfl, by decide⟩ ⟨rfl, hone.length⟩]
    exact congrArg Except.ok
      (MerkleAppendStateV1.ext rfl (subtrees_singleton T.node T.empty leafHash).symm)
  rw [appendLeaves, bind_of_ok hstart]
  induction rest using List.reverseRecOn with
  | nil => rfl
  | append_singleton rest next ih =>
    have hrest := h.beginning
    refine foldlM_append_eq_ok.mpr ⟨frontierOf T hrest, ih hrest, ?_⟩
    have happend := append_frontierOf (T := T) hrest h
    rw [foldlM_singleton_eq_ok, bind_of_ok happend]
    rfl

/-- The frontier simulates the tree. For leaf hashes of 32 bytes, fewer than 2 ^ 48, appended one
at a time, the state has the root of the tree and the roots of the complete subtrees of the
binary decomposition of its size ; and `append` returns the two proofs of the provers on the
longer tree, with the state of the longer tree. -/
theorem frontier_refines (T : TreeHash) (leafHash : List UInt8) (rest : List (List UInt8))
    (hleaves : ∀ x ∈ leafHash :: rest, x.length = 32) (hsize : (leafHash :: rest).length < 2 ^ 48) :
    ∃ s, appendLeaves T leafHash rest = .ok s ∧ s.treeSize = (leafHash :: rest).length ∧
      s.rootHash T = merkleRootV1 T (leafHash :: rest) ∧
      s.peaks = completeSubtreeRoots T (leafHash :: rest) ∧
      ∀ next : List UInt8, next.length = 32 →
        ∃ successor inclusion consistency,
          s.append T next = .ok (successor, inclusion, consistency) ∧
          appendLeaves T leafHash (rest ++ [next]) = .ok successor ∧
          merkleInclusionProofV1 T (leafHash :: rest ++ [next]) (leafHash :: rest).length =
            .ok inclusion ∧
          merkleConsistencyProofV1 T (leafHash :: rest ++ [next]) (leafHash :: rest).length =
            .ok consistency := by
  have hceiling : maxHeadTreeSizeV1 = 2 ^ 48 := rfl
  have h : BoundedLeaves (leafHash :: rest) := ⟨by simp, by omega, hleaves⟩
  refine ⟨frontierOf T h, appendLeaves_eq h, rfl, rootHash_frontierOf h,
    (completeSubtreeRoots_eq _).symm, fun next hnext => ?_⟩
  have h' : BoundedLeaves (leafHash :: rest ++ [next]) := by
    refine ⟨by simp, ?_, ?_⟩
    · rw [List.length_append, List.length_singleton]
      omega
    · rw [List.forall_mem_append, List.forall_mem_singleton]
      exact ⟨hleaves, hnext⟩
  refine ⟨_, _, _, append_frontierOf h h', appendLeaves_eq h',
    merkleInclusionProofV1_eq (by simp), ?_⟩
  rw [merkleConsistencyProofV1, refuseIf_bind_of_not (by simp)]
  rfl

/-- Three leaves, appended : the second append is the one of the statement. -/
theorem frontier_refines_sample :
    ∃ s, appendLeaves sampleTreeHash (List.replicate 32 1) [List.replicate 32 2] = .ok s ∧
      s.treeSize = 2 ∧
      ∃ successor inclusion consistency,
        s.append sampleTreeHash (List.replicate 32 3) = .ok (successor, inclusion, consistency) ∧
        appendLeaves sampleTreeHash (List.replicate 32 1)
          [List.replicate 32 2, List.replicate 32 3] = .ok successor ∧
        merkleInclusionProofV1 sampleTreeHash sampleLeafHashes 2 = .ok inclusion ∧
        merkleConsistencyProofV1 sampleTreeHash sampleLeafHashes 2 = .ok consistency := by
  obtain ⟨s, hs, hsize, -, -, happend⟩ := frontier_refines sampleTreeHash (List.replicate 32 1)
    [List.replicate 32 2] (by decide) (by decide)
  exact ⟨s, hs, hsize, happend (List.replicate 32 3) (by decide)⟩

/-! ## Recovery from the last leaf -/

/-- The bits of a size and those of its last index : the trailing zeros become ones. -/
theorem popcount_odd_part (s j : ℕ) :
    popcount (2 ^ s * (2 * j + 1)) = popcount j + 1 ∧
      popcount (2 ^ s * (2 * j + 1) - 1) = s + popcount j := by
  induction s with
  | zero =>
    rw [pow_zero, one_mul, Nat.add_sub_cancel, popcount_odd (by omega), popcount_even (n := 2 * j)
      (by omega), show (2 * j + 1) / 2 = j by omega, show 2 * j / 2 = j by omega, Nat.zero_add]
    exact ⟨rfl, rfl⟩
  | succ s ih =>
    obtain ⟨ih, ih'⟩ := ih
    have hpos : 0 < 2 ^ s * (2 * j + 1) := Nat.mul_pos (Nat.two_pow_pos s) (Nat.succ_pos _)
    rw [pow_succ', mul_assoc]
    generalize 2 ^ s * (2 * j + 1) = n at ih ih' hpos ⊢
    rw [popcount_even (n := 2 * n) (by omega), popcount_odd (n := 2 * n - 1) (by omega),
      show 2 * n / 2 = n by omega, show (2 * n - 1) / 2 = n - 1 by omega, ih, ih']
    exact ⟨rfl, by omega⟩

/-- The loop takes as many of the smallest peaks as the size has trailing ones. -/
theorem carryLoop_eq {s : ℕ} (j : ℕ) {nodes : List (List UInt8)} (hs : s ≤ nodes.length)
    (carry : List UInt8) :
    carryLoop T (2 ^ s * (2 * j + 1) - 1) nodes.reverse carry =
      (nodes.drop s).reverse ++ [ascendLeft T.node (nodes.take s) carry] := by
  induction s generalizing nodes carry with
  | zero =>
    rw [pow_zero, one_mul, Nat.add_sub_cancel, carryLoop_even (by omega)]
    rfl
  | succ s ih =>
    obtain ⟨node, nodes, rfl⟩ := List.exists_cons_of_length_pos (by omega : 0 < nodes.length)
    have hpos : 0 < 2 ^ s * (2 * j + 1) := Nat.mul_pos (Nat.two_pow_pos s) (Nat.succ_pos _)
    have hhalf : (2 ^ (s + 1) * (2 * j + 1) - 1) / 2 = 2 ^ s * (2 * j + 1) - 1 := by
      rw [pow_succ', mul_assoc]
      omega
    have hodd : (2 ^ (s + 1) * (2 * j + 1) - 1) % 2 = 1 := by
      rw [pow_succ', mul_assoc]
      omega
    rw [List.reverse_cons, carryLoop_odd hodd, hhalf, ih (by simpa using hs)]
    rfl

/-- An accepted proof of the last leaf has a node for each bit of the last index, and its nodes
lead to the root from the left. -/
theorem lastLeaf_accepted {treeSize : ℕ} {leafHash rootHash : List UInt8}
    {proof : List (List UInt8)}
    (h : verifyMerkleInclusionV1 T leafHash (treeSize - 1) treeSize proof rootHash = .ok ()) :
    leafHash.length = 32 ∧ (∀ node ∈ proof, node.length = 32) ∧
      proof.length = popcount (treeSize - 1) ∧ ascendLeft T.node proof leafHash = rootHash := by
  obtain ⟨hleaf, -, hlow, -, -, hnodes, hlength, hascend⟩ := verifyMerkleInclusionV1_eq_ok.mp h
  have hindex : ((treeSize : ℤ) - 1).toNat = treeSize - 1 := by omega
  rw [hindex, Int.toNat_natCast, sides_self] at hlength hascend
  rw [List.length_replicate] at hlength
  rw [ascend_replicate T.node hlength] at hascend
  exact ⟨hleaf, hnodes, hlength, hascend⟩

theorem ascendLeft_length {proof : List (List UInt8)} {x : List UInt8} (hx : x.length = 32) :
    (ascendLeft T.node proof x).length = 32 := by
  induction proof generalizing x with
  | nil => exact hx
  | cons node proof ih => exact ih (T.length_node node x)

/-- `from_last_leaf` succeeds on every accepted proof : its own checks never refuse. -/
theorem fromLastLeaf_accepted {treeSize : ℕ} {leafHash rootHash : List UInt8}
    {proof : List (List UInt8)} (hlow : 1 ≤ treeSize) (hhigh : treeSize ≤ maxHeadTreeSizeV1)
    (h : verifyMerkleInclusionV1 T leafHash (treeSize - 1) treeSize proof rootHash = .ok ()) :
    ∃ s, MerkleAppendStateV1.fromLastLeaf T treeSize leafHash proof rootHash = .ok s ∧
      s.treeSize = treeSize ∧ s.peaks = carryLoop T (treeSize - 1) proof.reverse leafHash ∧
      s.rootHash T = rootHash := by
  obtain ⟨hleaf, hnodes, hlength, hascend⟩ := lastLeaf_accepted h
  obtain ⟨z, j, rfl⟩ := exists_odd_part hlow
  obtain ⟨hcount, hcount'⟩ := popcount_odd_part z j
  have hz : z ≤ proof.length := by omega
  have hcover : ((proof.drop z).reverse ++ [ascendLeft T.node (proof.take z) leafHash]).length =
        popcount (2 ^ z * (2 * j + 1)) ∧
      ∀ node ∈ (proof.drop z).reverse ++ [ascendLeft T.node (proof.take z) leafHash],
        node.length = 32 := by
    constructor
    · rw [List.length_append, List.length_reverse, List.length_drop, List.length_singleton]
      omega
    · rw [List.forall_mem_append, List.forall_mem_singleton]
      exact ⟨fun node hnode => hnodes node (List.mem_of_mem_drop (List.mem_reverse.mp hnode)),
        ascendLeft_length hleaf⟩
  have hroot : (MerkleAppendStateV1.mk _ _ ⟨hlow, hhigh⟩ hcover).rootHash T = rootHash := by
    have hsplit : ascendLeft T.node (proof.drop z) (ascendLeft T.node (proof.take z) leafHash) =
        ascendLeft T.node proof leafHash := by
      rw [ascendLeft, ascendLeft, ← List.foldl_append, List.take_append_drop]
      rfl
    simp only [MerkleAppendStateV1.rootHash, List.dropLast_concat, List.reverse_reverse,
      List.getLast_append_singleton]
    exact hsplit.trans hascend
  refine ⟨⟨_, _, ⟨hlow, hhigh⟩, hcover⟩, ?_, rfl, (carryLoop_eq j hz leafHash).symm, hroot⟩
  rw [MerkleAppendStateV1.fromLastLeaf, refuseIf_bind_of_not (not_not.mpr ⟨hlow, hhigh⟩),
    bind_of_ok (mapError_eq_ok.mpr h), trailingZeros_eq]
  change (do
    let state ← MerkleAppendStateV1.create (2 ^ z * (2 * j + 1))
      ((proof.drop z).reverse ++ [ascendLeft T.node (proof.take z) leafHash])
    refuseIf _ _
    return state) = _
  rw [bind_of_ok (appendState_eq_ok ⟨hlow, hhigh⟩ hcover), refuseIf_bind_of_not (not_not.mpr hroot)]
  rfl

theorem popcount_le_size (n : ℕ) : popcount n ≤ n.size := by
  rw [← Nat.size_eq_bits_len]
  exact List.count_le_length

/-- Recovery of the frontier. From a proof that the verifier accepts at the last index,
`from_last_leaf` succeeds, with one peak for each bit of the tree size and the verified root ;
and from the audit path of the last leaf of a tree it recovers the state that appending the
leaves builds. -/
theorem frontier_recovered (T : TreeHash) :
    (∀ (treeSize : ℕ) (leafHash rootHash : List UInt8) (proof : List (List UInt8)),
      1 ≤ treeSize → treeSize ≤ 2 ^ 48 →
      verifyMerkleInclusionV1 T leafHash (treeSize - 1) treeSize proof rootHash = .ok () →
      ∃ s, MerkleAppendStateV1.fromLastLeaf T treeSize leafHash proof rootHash = .ok s ∧
        s.treeSize = treeSize ∧ s.peaks.length = popcount treeSize ∧ s.rootHash T = rootHash) ∧
    ∀ (leafHash : List UInt8) (rest : List (List UInt8)) (proof : List (List UInt8)),
      (∀ x ∈ leafHash :: rest, x.length = 32) → (leafHash :: rest).length ≤ 2 ^ 48 →
      merkleInclusionProofV1 T (leafHash :: rest) rest.length = .ok proof →
      ∃ s, appendLeaves T leafHash rest = .ok s ∧
        MerkleAppendStateV1.fromLastLeaf T (leafHash :: rest).length
          ((leafHash :: rest).getLast (List.cons_ne_nil _ _)) proof
          (merkleRootV1 T (leafHash :: rest)) = .ok s := by
  constructor
  · intro treeSize leafHash rootHash proof hlow hhigh h
    obtain ⟨s, hs, hsize, -, hroot⟩ := fromLastLeaf_accepted hlow hhigh h
    exact ⟨s, hs, hsize, hsize ▸ s.cover.1, hroot⟩
  · intro leafHash rest proof hleaves hsize hproof
    have h : BoundedLeaves (leafHash :: rest) := ⟨by simp, hsize, hleaves⟩
    obtain ⟨xs, x, hxs⟩ : ∃ xs x, leafHash :: rest = xs ++ [x] :=
      ⟨_, _, (List.dropLast_concat_getLast (List.cons_ne_nil _ _)).symm⟩
    have hlength : rest.length = xs.length := by
      have := congrArg List.length hxs
      simpa using this
    have hlast : (leafHash :: rest).getLast (List.cons_ne_nil _ _) = x := by
      simp [hxs]
    obtain rfl := Except.ok.inj
      ((merkleInclusionProofV1_eq (T := T) (by simp)).symm.trans hproof)
    have hpath : path T.node (leafHash :: rest) rest.length =
        (subtrees T.node T.empty xs).reverse := by
      rw [hxs, hlength, path_append_singleton T.node T.empty]
    have hbound : (path T.node (leafHash :: rest) rest.length).length ≤ maxHeadProofNodesV1 := by
      have hcount := popcount_le_size xs.length
      have hlog : xs.length.size ≤ 48 := Nat.size_le.mpr (by
        simp only [List.length_cons] at hsize
        omega)
      rw [hpath, List.length_reverse, length_subtrees]
      exact hcount.trans (hlog.trans (by decide))
    have haccepted := path_accepted (T := T) hleaves (i := rest.length) (by simp) hbound
    have hget : (leafHash :: rest).get ⟨rest.length, by simp⟩ = x := by
      simp [hxs, hlength]
    have hcast : (((leafHash :: rest).length : ℕ) : ℤ) - 1 = (rest.length : ℕ) := by simp
    rw [List.get_eq_getElem] at hget
    rw [hget, ← hcast] at haccepted
    obtain ⟨s, hs, hsize', hpeaks, -⟩ := fromLastLeaf_accepted (by simp) h.size haccepted
    refine ⟨_, appendLeaves_eq h, ?_⟩
    rw [hlast, hs]
    refine congrArg Except.ok (MerkleAppendStateV1.ext hsize' ?_)
    rw [hpeaks, hpath, List.reverse_reverse, List.length_cons, Nat.add_sub_cancel, hlength,
      carryLoop_subtrees, ← hxs]
    rfl

/-- The state after three leaves, from the path of the last one. -/
theorem frontier_recovered_sample :
    (∃ s, MerkleAppendStateV1.fromLastLeaf sampleTreeHash 3 (List.replicate 32 3)
        (path sampleTreeHash.node sampleLeafHashes 2)
        (merkleRootV1 sampleTreeHash sampleLeafHashes) = .ok s ∧
      s.treeSize = 3 ∧ s.peaks.length = popcount 3 ∧
      s.rootHash sampleTreeHash = merkleRootV1 sampleTreeHash sampleLeafHashes) ∧
    ∃ s, appendLeaves sampleTreeHash (List.replicate 32 1)
        [List.replicate 32 2, List.replicate 32 3] = .ok s ∧
      MerkleAppendStateV1.fromLastLeaf sampleTreeHash 3 (List.replicate 32 3)
        (path sampleTreeHash.node sampleLeafHashes 2)
        (merkleRootV1 sampleTreeHash sampleLeafHashes) = .ok s :=
  ⟨(frontier_recovered sampleTreeHash).1 3 _ _ _ (by decide) (by decide) sampleLeaf_accepted,
    (frontier_recovered sampleTreeHash).2 (List.replicate 32 1)
      [List.replicate 32 2, List.replicate 32 3] _ (by decide) (by decide)
      (merkleInclusionProofV1_eq (by decide))⟩

end Etzio
