import Mathlib

/-!
# Merkle trees

A Merkle tree over any number of hashes, level by level. `level` combines neighbours ; a last
hash without a neighbour goes up as it is. `top` is the hash that remains, and `path` the
neighbours met on the way up from an index. The sides on which they stand are a function of the
index and of the last index alone (`sides`), and `ascend` recomputes the top from them.

`ascend_path` is completeness : the path of an index leads to the top. `ascend_binds` is
binding : two ascents along the same sides that meet at the top started at the same hash with
the same neighbours, or two different pairs they combine have one hash (`Collide`).

The same tree is described from above : `top_split`, `path_split_left` and `path_split_right` cut
it at the largest power of two below its size, and `subtrees` lists the complete trees that its
size is the sum of.
-/

namespace MerkleTrees

variable {α : Type*} (node : α → α → α)

/-! ## Levels -/

/-- The level above : neighbours are combined. -/
def level : List α → List α
  | a :: b :: rest => node a b :: level rest
  | rest => rest

@[simp] theorem level_nil : level node [] = [] := rfl

@[simp] theorem level_singleton (a : α) : level node [a] = [a] := rfl

@[simp] theorem level_cons_cons (a b : α) (rest : List α) :
    level node (a :: b :: rest) = node a b :: level node rest := rfl

@[simp] theorem length_level (xs : List α) : (level node xs).length = (xs.length + 1) / 2 := by
  induction xs using List.twoStepInduction with
  | nil => simp
  | singleton a => simp
  | cons_cons a b rest ih _ =>
    simp only [level_cons_cons, List.length_cons, ih]
    omega

theorem take_level (k : ℕ) (xs : List α) :
    (level node xs).take k = level node (xs.take (2 * k)) := by
  induction xs using List.twoStepInduction generalizing k with
  | nil => simp
  | singleton a => cases k <;> simp [Nat.mul_succ]
  | cons_cons a b rest ih _ =>
    cases k with
    | zero => simp
    | succ k => simp [Nat.mul_succ, ih]

theorem drop_level (k : ℕ) (xs : List α) :
    (level node xs).drop k = level node (xs.drop (2 * k)) := by
  induction xs using List.twoStepInduction generalizing k with
  | nil => simp
  | singleton a => cases k <;> simp [Nat.mul_succ]
  | cons_cons a b rest ih _ =>
    cases k with
    | zero => simp
    | succ k => simp [Nat.mul_succ, ih]

/-- Hashes behind an even number of others do not change the level of these. -/
theorem level_append {xs : List α} (hxs : xs.length % 2 = 0) (ys : List α) :
    level node (xs ++ ys) = level node xs ++ level node ys := by
  induction xs using List.twoStepInduction with
  | nil => rfl
  | singleton a => simp at hxs
  | cons_cons a b rest ih _ =>
    simp only [List.length_cons] at hxs
    simp [ih (by omega)]

/-- An induction over the size of a list, level by level : a list is empty, of even size and
described by the level above, or one hash longer than a list of even size. -/
theorem level_induction {motive : List α → Prop} (nil : motive [])
    (even : ∀ xs : List α, xs ≠ [] → xs.length % 2 = 0 → motive (level node xs) → motive xs)
    (snoc : ∀ (xs : List α) (a : α), xs.length % 2 = 0 → motive xs → motive (xs ++ [a]))
    (xs : List α) : motive xs := by
  induction hn : xs.length using Nat.strong_induction_on generalizing xs with
  | _ n ih =>
    rcases Nat.mod_two_eq_zero_or_one xs.length with heven | hodd
    · by_cases hne : xs = []
      · exact hne ▸ nil
      · have hpos := List.length_pos_iff.mpr hne
        exact even xs hne heven (ih _ (by simp only [length_level]; omega) _ rfl)
    · have hne : xs ≠ [] := by
        rintro rfl
        simp at hodd
      have hlength : xs.dropLast.length = xs.length - 1 := by simp
      rw [← List.dropLast_concat_getLast hne]
      exact snoc _ _ (by omega) (ih _ (by omega) _ rfl)

/-- The level `s` steps up. -/
def levels (s : ℕ) (xs : List α) : List α := (level node)^[s] xs

@[simp] theorem levels_zero (xs : List α) : levels node 0 xs = xs := rfl

theorem levels_succ (s : ℕ) (xs : List α) :
    levels node (s + 1) xs = levels node s (level node xs) := rfl

theorem levels_succ' (s : ℕ) (xs : List α) :
    levels node (s + 1) xs = level node (levels node s xs) :=
  Function.iterate_succ_apply' _ _ _

theorem take_levels (s k : ℕ) (xs : List α) :
    (levels node s xs).take k = levels node s (xs.take (2 ^ s * k)) := by
  induction s generalizing xs k with
  | zero => simp
  | succ s ih => rw [levels_succ, ih, take_level, levels_succ, ← mul_assoc, ← pow_succ']

theorem length_levels {xs : List α} (hxs : xs ≠ []) (s : ℕ) :
    (levels node s xs).length = (xs.length - 1) / 2 ^ s + 1 := by
  have hpos := List.length_pos_iff.mpr hxs
  induction s with
  | zero =>
    rw [levels_zero, pow_zero, Nat.div_one]
    omega
  | succ s ih =>
    rw [levels_succ', length_level, ih, pow_succ, ← Nat.div_div_eq_div_mul]
    exact Nat.add_div_right _ Nat.two_pos

theorem levels_ne_nil {xs : List α} (hxs : xs ≠ []) (s : ℕ) : levels node s xs ≠ [] := by
  rw [← List.length_pos_iff, length_levels node hxs]
  exact Nat.succ_pos _

/-! ## The top -/

/-- The hash that remains ; `d` stands for that of no hashes. -/
def top (d : α) : List α → α
  | [] => d
  | [a] => a
  | a :: b :: rest => top d (level node (a :: b :: rest))
termination_by xs => xs.length
decreasing_by
  simp only [length_level, List.length_cons]
  omega

variable (d : α)

@[simp] theorem top_nil : top node d [] = d := by rw [top]

@[simp] theorem top_singleton (a : α) : top node d [a] = a := by rw [top]

@[simp] theorem top_level (xs : List α) : top node d (level node xs) = top node d xs := by
  match xs with
  | [] => rfl
  | [a] => rfl
  | a :: b :: rest => rw [top.eq_def node d (a :: b :: rest)]

@[simp] theorem top_levels (s : ℕ) (xs : List α) :
    top node d (levels node s xs) = top node d xs := by
  induction s generalizing xs with
  | zero => rfl
  | succ s ih => rw [levels_succ, ih, top_level]

/-- A tree is its parts on both sides of the largest power of two below its size. -/
theorem top_split {k : ℕ} {xs : List α} (hlow : 2 ^ k < xs.length)
    (hhigh : xs.length ≤ 2 ^ (k + 1)) :
    top node d xs = node (top node d (xs.take (2 ^ k))) (top node d (xs.drop (2 ^ k))) := by
  induction k generalizing xs with
  | zero =>
    match xs, hlow, hhigh with
    | [a, b], _, _ => rw [← top_level]; simp [List.take]
    | [], hlow, _ => simp at hlow
    | [a], hlow, _ => simp at hlow
    | a :: b :: c :: rest, _, hhigh => simp at hhigh
  | succ k ih =>
    have hlevel := length_level node xs
    rw [pow_succ] at hlow
    rw [pow_succ, pow_succ] at hhigh
    rw [← top_level, ih (by omega) (by rw [pow_succ]; omega), take_level, drop_level, ← pow_succ',
      top_level, top_level]

/-! ## Paths -/

/-- The side on which a neighbour stands. -/
inductive Side
  | left
  | right
  deriving DecidableEq, Repr

/-- The neighbour of an index. -/
def sibling (xs : List α) (i : ℕ) : Option α :=
  if i % 2 = 1 then xs[i - 1]? else xs[i + 1]?

/-- The neighbours met on the way up from an index. -/
def path : List α → ℕ → List α
  | a :: b :: rest, i =>
    (sibling (a :: b :: rest) i).toList ++ path (level node (a :: b :: rest)) (i / 2)
  | _, _ => []
termination_by xs => xs.length
decreasing_by
  simp only [length_level, List.length_cons]
  omega

/-- The sides of the neighbours of an index, in a tree whose last index is `last`. -/
def sides (i last : ℕ) : List Side :=
  if last = 0 then []
  else if i % 2 = 1 then .left :: sides (i / 2) (last / 2)
  else if i = last then sides (i / 2) (last / 2)
  else .right :: sides (i / 2) (last / 2)
termination_by last

/-- A neighbour and a hash, in the order of their places. -/
def Side.order (p x : α) : Side → α × α
  | .left => (p, x)
  | .right => (x, p)

/-- The hash that the neighbours lead to. -/
def ascend : List Side → List α → α → α
  | s :: sides, p :: proof, x => ascend sides proof (node (s.order p x).1 (s.order p x).2)
  | _, _, x => x

/-- The pairs that an ascent combines. -/
def ascentPairs : List Side → List α → α → List (α × α)
  | s :: sides, p :: proof, x =>
    s.order p x :: ascentPairs sides proof (node (s.order p x).1 (s.order p x).2)
  | _, _, _ => []

/-- The neighbours that stand on the left. -/
def leftNodes : List Side → List α → List α
  | .left :: sides, p :: proof => p :: leftNodes sides proof
  | .right :: sides, _ :: proof => leftNodes sides proof
  | _, _ => []

theorem sides_zero (i : ℕ) : sides i 0 = [] := by
  rw [sides, if_pos rfl]

theorem sides_odd {i last : ℕ} (hlast : last ≠ 0) (hi : i % 2 = 1) :
    sides i last = .left :: sides (i / 2) (last / 2) := by
  rw [sides, if_neg hlast, if_pos hi]

theorem sides_last {i : ℕ} (hi : i % 2 = 0) : sides i i = sides (i / 2) (i / 2) := by
  by_cases hzero : i = 0
  · rw [hzero]
  · rw [sides, if_neg hzero, if_neg (by omega), if_pos rfl]

theorem sides_even {i last : ℕ} (hi : i % 2 = 0) (hlt : i < last) :
    sides i last = .right :: sides (i / 2) (last / 2) := by
  rw [sides, if_neg (by omega), if_neg (by omega), if_neg hlt.ne]

theorem sibling_of_odd {xs : List α} {i : ℕ} (hi : i % 2 = 1) : sibling xs i = xs[i - 1]? :=
  if_pos hi

theorem sibling_of_even {xs : List α} {i : ℕ} (hi : i % 2 = 0) : sibling xs i = xs[i + 1]? :=
  if_neg (by omega)

theorem path_step {xs : List α} {i : ℕ} (hi : i < xs.length) :
    path node xs i = (sibling xs i).toList ++ path node (level node xs) (i / 2) := by
  match xs with
  | [] => simp at hi
  | [a] =>
    obtain rfl : i = 0 := by simpa using hi
    simp [path, sibling]
  | a :: b :: rest => rw [path]

theorem path_singleton (a : α) (i : ℕ) : path node [a] i = [] := by
  rw [path]
  simp

/-- The hash above an index is combined from it and its neighbour. -/
theorem getElem?_level_odd {xs : List α} {i : ℕ} {p x : α} (hi : i % 2 = 1)
    (hp : xs[i - 1]? = some p) (hx : xs[i]? = some x) :
    (level node xs)[i / 2]? = some (node p x) := by
  have hdrop := drop_level node (i / 2) xs
  have hmul : 2 * (i / 2) = i - 1 := by omega
  have hcons : xs.drop (2 * (i / 2)) = p :: x :: xs.drop (i + 1) := by
    obtain ⟨hlt, rfl⟩ := List.getElem?_eq_some_iff.mp hx
    obtain ⟨hlt', rfl⟩ := List.getElem?_eq_some_iff.mp hp
    rw [hmul, List.drop_eq_getElem_cons hlt']
    have hsucc : i - 1 + 1 = i := by omega
    rw [hsucc, List.drop_eq_getElem_cons hlt]
  rw [hcons, level_cons_cons] at hdrop
  have := congrArg (fun l => l[0]?) hdrop
  simpa using this

theorem getElem?_level_even {xs : List α} {i : ℕ} {p x : α} (hi : i % 2 = 0)
    (hx : xs[i]? = some x) (hp : xs[i + 1]? = some p) :
    (level node xs)[i / 2]? = some (node x p) := by
  have hodd := getElem?_level_odd node (i := i + 1) (by omega) (by simpa using hx) hp
  rwa [show (i + 1) / 2 = i / 2 by omega] at hodd

/-- A last hash without a neighbour goes up as it is. -/
theorem getElem?_level_last {xs : List α} {i : ℕ} {x : α} (hi : i % 2 = 0)
    (hx : xs[i]? = some x) (hlast : xs.length = i + 1) :
    (level node xs)[i / 2]? = some x := by
  have hdrop := drop_level node (i / 2) xs
  have hmul : 2 * (i / 2) = i := by omega
  obtain ⟨hlt, rfl⟩ := List.getElem?_eq_some_iff.mp hx
  rw [hmul, List.drop_eq_getElem_cons hlt, List.drop_eq_nil_of_le hlast.le,
    level_singleton] at hdrop
  have := congrArg (fun l => l[0]?) hdrop
  simpa using this

theorem path_odd {xs : List α} {i : ℕ} {p : α} (hi : i % 2 = 1) (hlt : i < xs.length)
    (hp : xs[i - 1]? = some p) : path node xs i = p :: path node (level node xs) (i / 2) := by
  rw [path_step node hlt, sibling_of_odd hi, hp]
  rfl

theorem path_even {xs : List α} {i : ℕ} {p : α} (hi : i % 2 = 0) (hp : xs[i + 1]? = some p) :
    path node xs i = p :: path node (level node xs) (i / 2) := by
  obtain ⟨hlt, -⟩ := List.getElem?_eq_some_iff.mp hp
  rw [path_step node (by omega), sibling_of_even hi, hp]
  rfl

theorem path_last {xs : List α} {i : ℕ} (hi : i % 2 = 0) (hlast : xs.length = i + 1) :
    path node xs i = path node (level node xs) (i / 2) := by
  rw [path_step node (by omega), sibling_of_even hi, List.getElem?_eq_none hlast.le]
  rfl

/-- The last index of the level above. -/
theorem last_level {xs : List α} (hxs : xs ≠ []) :
    (level node xs).length - 1 = (xs.length - 1) / 2 := by
  have hpos := List.length_pos_iff.mpr hxs
  rw [length_level]
  omega

/-- The way up from a hash at an index : it is the only one, it has a neighbour on the left, it
has none and is the last, or it has a neighbour on the right. -/
inductive Ascent : List α → ℕ → α → Prop
  | single (x : α) : Ascent [x] 0 x
  | odd {xs : List α} {i : ℕ} {p x : α} (hi : i % 2 = 1) (hp : xs[i - 1]? = some p)
      (hx : xs[i]? = some x) (h : Ascent (level node xs) (i / 2) (node p x)) : Ascent xs i x
  | last {xs : List α} {i : ℕ} {x : α} (hi : i % 2 = 0) (hx : xs[i]? = some x)
      (hlast : xs.length = i + 1) (h : Ascent (level node xs) (i / 2) x) : Ascent xs i x
  | even {xs : List α} {i : ℕ} {p x : α} (hi : i % 2 = 0) (hx : xs[i]? = some x)
      (hp : xs[i + 1]? = some p) (h : Ascent (level node xs) (i / 2) (node x p)) : Ascent xs i x

theorem ascent_of_get {xs : List α} {i : ℕ} {x : α} (hx : xs[i]? = some x) :
    Ascent node xs i x := by
  induction hn : xs.length using Nat.strong_induction_on generalizing xs i x with
  | _ n ih =>
    obtain ⟨hlt, hget⟩ := List.getElem?_eq_some_iff.mp hx
    have hlevel := length_level node xs
    by_cases hone : xs.length = 1
    · obtain ⟨y, rfl⟩ := List.length_eq_one_iff.mp hone
      obtain rfl : i = 0 := by simpa using hlt
      obtain rfl : y = x := by simpa using hget
      exact .single y
    rcases Nat.mod_two_eq_zero_or_one i with hi | hi
    · by_cases hlast : xs.length = i + 1
      · exact .last hi hx hlast (ih _ (by omega) (getElem?_level_last node hi hx hlast) rfl)
      · have hp : xs[i + 1]? = some xs[i + 1] := List.getElem?_eq_getElem (by omega)
        exact .even hi hx hp (ih _ (by omega) (getElem?_level_even node hi hx hp) rfl)
    · have hp : xs[i - 1]? = some xs[i - 1] := List.getElem?_eq_getElem (by omega)
      exact .odd hi hp hx (ih _ (by omega) (getElem?_level_odd node hi hp hx) rfl)

theorem Ascent.lt {xs : List α} {i : ℕ} {x : α} (h : Ascent node xs i x) : i < xs.length := by
  cases h with
  | single => simp
  | odd _ _ hx => exact (List.getElem?_eq_some_iff.mp hx).1
  | last _ hx => exact (List.getElem?_eq_some_iff.mp hx).1
  | even _ hx => exact (List.getElem?_eq_some_iff.mp hx).1

/-! ## Completeness -/

/-- The path and the sides of an index, one level at a time. -/
theorem path_sides_odd {xs : List α} {i : ℕ} {p x : α} (hi : i % 2 = 1)
    (hp : xs[i - 1]? = some p) (hx : xs[i]? = some x) :
    path node xs i = p :: path node (level node xs) (i / 2) ∧
      sides i (xs.length - 1) = .left :: sides (i / 2) ((level node xs).length - 1) := by
  obtain ⟨hlt, -⟩ := List.getElem?_eq_some_iff.mp hx
  have hne : xs ≠ [] := List.ne_nil_of_length_pos (by omega)
  exact ⟨path_odd node hi hlt hp, by rw [last_level node hne, sides_odd (by omega) hi]⟩

theorem path_sides_last {xs : List α} {i : ℕ} (hi : i % 2 = 0) (hlast : xs.length = i + 1) :
    path node xs i = path node (level node xs) (i / 2) ∧
      sides i (xs.length - 1) = sides (i / 2) ((level node xs).length - 1) := by
  have hne : xs ≠ [] := List.ne_nil_of_length_pos (by omega)
  refine ⟨path_last node hi hlast, ?_⟩
  rw [last_level node hne, hlast, Nat.add_sub_cancel, sides_last hi]

theorem path_sides_even {xs : List α} {i : ℕ} {p : α} (hi : i % 2 = 0)
    (hp : xs[i + 1]? = some p) :
    path node xs i = p :: path node (level node xs) (i / 2) ∧
      sides i (xs.length - 1) = .right :: sides (i / 2) ((level node xs).length - 1) := by
  obtain ⟨hlt, -⟩ := List.getElem?_eq_some_iff.mp hp
  have hne : xs ≠ [] := List.ne_nil_of_length_pos (by omega)
  exact ⟨path_even node hi hp, by rw [last_level node hne, sides_even hi (by omega)]⟩

/-- A path has one neighbour for each side. -/
theorem Ascent.length_path {xs : List α} {i : ℕ} {x : α} (h : Ascent node xs i x) :
    (path node xs i).length = (sides i (xs.length - 1)).length := by
  induction h with
  | single x => simp [path_singleton, sides_zero]
  | odd hi hp hx _ ih =>
    obtain ⟨hpath, hsides⟩ := path_sides_odd node hi hp hx
    rw [hpath, hsides, List.length_cons, List.length_cons, ih]
  | last hi _ hlast _ ih =>
    obtain ⟨hpath, hsides⟩ := path_sides_last node hi hlast
    rw [hpath, hsides, ih]
  | even hi _ hp _ ih =>
    obtain ⟨hpath, hsides⟩ := path_sides_even node hi hp
    rw [hpath, hsides, List.length_cons, List.length_cons, ih]

/-- The path of an index leads from its hash to the top. -/
theorem Ascent.ascend_path {xs : List α} {i : ℕ} {x : α} (h : Ascent node xs i x) :
    ascend node (sides i (xs.length - 1)) (path node xs i) x = top node d xs := by
  induction h with
  | single x => simp [path_singleton, ascend]
  | odd hi hp hx _ ih =>
    obtain ⟨hpath, hsides⟩ := path_sides_odd node hi hp hx
    rw [hpath, hsides, ascend, Side.order, ih, top_level]
  | last hi _ hlast _ ih =>
    obtain ⟨hpath, hsides⟩ := path_sides_last node hi hlast
    rw [hpath, hsides, ih, top_level]
  | even hi _ hp _ ih =>
    obtain ⟨hpath, hsides⟩ := path_sides_even node hi hp
    rw [hpath, hsides, ascend, Side.order, ih, top_level]

/-! ## Binding -/

/-- Some pair of `P` and a different pair of `Q` are combined to one hash. -/
def Collide (P Q : List (α × α)) : Prop :=
  ∃ x ∈ P, ∃ y ∈ Q, x ≠ y ∧ node x.1 x.2 = node y.1 y.2

variable {node} in
theorem Collide.mono {P P' Q Q' : List (α × α)} (h : Collide node P Q) (hP : P ⊆ P')
    (hQ : Q ⊆ Q') : Collide node P' Q' := by
  obtain ⟨x, hx, y, hy, hne, heq⟩ := h
  exact ⟨x, hP hx, y, hQ hy, hne, heq⟩

theorem Side.order_inj {s : Side} {p p' x x' : α} (h : s.order p x = s.order p' x') :
    x = x' ∧ p = p' := by
  cases s <;> simp_all [Side.order]

/-- Two ascents along the same sides that meet started at the same hash, with the same
neighbours, or they combined two different pairs to one hash. -/
theorem ascend_binds {s : List Side} {proof proof' : List α} {x x' : α}
    (hlen : proof.length = s.length) (hlen' : proof'.length = s.length)
    (h : ascend node s proof x = ascend node s proof' x') :
    (x = x' ∧ proof = proof') ∨
      Collide node (ascentPairs node s proof x) (ascentPairs node s proof' x') := by
  induction s generalizing proof proof' x x' with
  | nil =>
    obtain rfl := List.length_eq_zero_iff.mp hlen
    obtain rfl := List.length_eq_zero_iff.mp hlen'
    exact .inl ⟨h, rfl⟩
  | cons side s ih =>
    obtain ⟨p, proof, rfl⟩ := List.exists_cons_of_length_eq_add_one hlen
    obtain ⟨p', proof', rfl⟩ := List.exists_cons_of_length_eq_add_one hlen'
    rcases ih (by simpa using hlen) (by simpa using hlen') h with ⟨hnode, rfl⟩ | hcollide
    · by_cases hpair : side.order p x = side.order p' x'
      · obtain ⟨rfl, rfl⟩ := Side.order_inj hpair
        exact .inl ⟨rfl, rfl⟩
      · exact .inr ⟨_, List.mem_cons_self, _, List.mem_cons_self, hpair, hnode⟩
    · exact .inr (hcollide.mono (List.subset_cons_self _ _) (List.subset_cons_self _ _))

/-! ## The pairs of a tree -/

/-- The pairs combined on a level. -/
def levelPairs : List α → List (α × α)
  | a :: b :: rest => (a, b) :: levelPairs rest
  | _ => []

/-- The pairs combined on the way to the top. -/
def topPairs : List α → List (α × α)
  | a :: b :: rest => levelPairs (a :: b :: rest) ++ topPairs (level node (a :: b :: rest))
  | _ => []
termination_by xs => xs.length
decreasing_by
  simp only [length_level, List.length_cons]
  omega

theorem topPairs_eq (xs : List α) :
    topPairs node xs = levelPairs xs ++ topPairs node (level node xs) := by
  match xs with
  | [] => simp [topPairs, levelPairs]
  | [a] => simp [topPairs, levelPairs]
  | a :: b :: rest => rw [topPairs]

theorem topPairs_levels (s : ℕ) (xs : List α) :
    topPairs node (levels node s xs) ⊆ topPairs node xs := by
  induction s generalizing xs with
  | zero => exact List.Subset.refl _
  | succ s ih =>
    rw [levels_succ, topPairs_eq node xs]
    exact List.Subset.trans (ih _) (List.subset_append_right _ _)

theorem levelPairs_append {xs : List α} (hxs : xs.length % 2 = 0) (ys : List α) :
    levelPairs (xs ++ ys) = levelPairs xs ++ levelPairs ys := by
  induction xs using List.twoStepInduction with
  | nil => rfl
  | singleton a => simp at hxs
  | cons_cons a b rest ih _ =>
    simp only [List.length_cons] at hxs
    simp [levelPairs, ih (by omega)]

theorem mem_levelPairs {xs : List α} {i : ℕ} {a b : α} (hi : i % 2 = 0) (ha : xs[i]? = some a)
    (hb : xs[i + 1]? = some b) : (a, b) ∈ levelPairs xs := by
  obtain ⟨hlt, hget⟩ := List.getElem?_eq_some_iff.mp ha
  obtain ⟨hlt', hget'⟩ := List.getElem?_eq_some_iff.mp hb
  have hcons : xs.drop i = a :: b :: xs.drop (i + 2) := by
    rw [List.drop_eq_getElem_cons hlt, List.drop_eq_getElem_cons hlt', hget, hget']
  have hlen : (xs.take i).length % 2 = 0 := by rwa [List.length_take_of_le hlt.le]
  have hpairs := levelPairs_append hlen (xs.drop i)
  rw [List.take_append_drop, hcons] at hpairs
  rw [hpairs]
  exact List.mem_append_right _ List.mem_cons_self

/-- The way up from an index combines pairs of the tree. -/
theorem Ascent.ascentPairs_subset {xs : List α} {i : ℕ} {x : α} (h : Ascent node xs i x) :
    ascentPairs node (sides i (xs.length - 1)) (path node xs i) x ⊆ topPairs node xs := by
  induction h with
  | single x => simp [path_singleton, ascentPairs]
  | @odd xs i p x hi hp hx _ ih =>
    obtain ⟨hpath, hsides⟩ := path_sides_odd node hi hp hx
    have hmem : (p, x) ∈ levelPairs xs :=
      mem_levelPairs (by omega) hp (by rwa [Nat.sub_add_cancel (by omega)])
    rw [hpath, hsides, topPairs_eq]
    exact List.cons_subset.mpr ⟨List.mem_append_left _ hmem,
      List.Subset.trans ih (List.subset_append_right _ _)⟩
  | @last xs i x hi _ hlast _ ih =>
    obtain ⟨hpath, hsides⟩ := path_sides_last node hi hlast
    rw [hpath, hsides, topPairs_eq]
    exact List.Subset.trans ih (List.subset_append_right _ _)
  | @even xs i p x hi hx hp _ ih =>
    obtain ⟨hpath, hsides⟩ := path_sides_even node hi hp
    rw [hpath, hsides, topPairs_eq]
    exact List.cons_subset.mpr ⟨List.mem_append_left _ (mem_levelPairs hi hx hp),
      List.Subset.trans ih (List.subset_append_right _ _)⟩

/-- The pairs of a tree are those of its two parts and the pair of their tops. -/
theorem topPairs_split {k : ℕ} {xs : List α} (hlow : 2 ^ k < xs.length)
    (hhigh : xs.length ≤ 2 ^ (k + 1)) :
    topPairs node xs ⊆ topPairs node (xs.take (2 ^ k)) ++ topPairs node (xs.drop (2 ^ k)) ++
      [(top node d (xs.take (2 ^ k)), top node d (xs.drop (2 ^ k)))] := by
  induction k generalizing xs with
  | zero =>
    match xs, hlow, hhigh with
    | [a, b], _, _ => simp [topPairs, levelPairs, List.take]
    | [], hlow, _ => simp at hlow
    | [a], hlow, _ => simp at hlow
    | a :: b :: c :: rest, _, hhigh => simp at hhigh
  | succ k ih =>
    have hlevel := length_level node xs
    have hpow := pow_succ 2 k
    have hpow' := pow_succ 2 (k + 1)
    have hih := @ih (level node xs) (by omega) (by omega)
    rw [take_level, drop_level, ← pow_succ', top_level, top_level] at hih
    have hpairs : levelPairs xs =
        levelPairs (xs.take (2 ^ (k + 1))) ++ levelPairs (xs.drop (2 ^ (k + 1))) := by
      rw [← levelPairs_append (by rw [List.length_take_of_le (by omega)]; omega),
        List.take_append_drop]
    rw [topPairs_eq node xs, topPairs_eq node (xs.take (2 ^ (k + 1))),
      topPairs_eq node (xs.drop (2 ^ (k + 1))), hpairs]
    intro q hq
    simp only [List.mem_append] at hq ⊢
    rcases hq with (hq | hq) | hq
    · tauto
    · tauto
    · have := hih hq
      simp only [List.mem_append] at this
      tauto

/-- The path of an index, cut at the largest power of two below the size. -/
theorem path_split_left {k : ℕ} {xs : List α} {i : ℕ} (hlow : 2 ^ k < xs.length)
    (hhigh : xs.length ≤ 2 ^ (k + 1)) (hi : i < 2 ^ k) :
    path node xs i = path node (xs.take (2 ^ k)) i ++ [top node d (xs.drop (2 ^ k))] := by
  induction k generalizing xs i with
  | zero =>
    match xs, hlow, hhigh with
    | [a, b], _, _ =>
      obtain rfl : i = 0 := by simpa using hi
      rw [path_even node (p := b) rfl rfl]
      simp [path, List.take]
    | [], hlow, _ => simp at hlow
    | [a], hlow, _ => simp at hlow
    | a :: b :: c :: rest, _, hhigh => simp at hhigh
  | succ k ih =>
    have hlevel := length_level node xs
    have hpow := pow_succ 2 k
    have hpow' := pow_succ 2 (k + 1)
    have hih := @ih (level node xs) (i / 2) (by omega) (by omega) (by omega)
    rw [take_level, drop_level, ← pow_succ', top_level] at hih
    have hsibling : sibling xs i = sibling (xs.take (2 ^ (k + 1))) i := by
      rcases Nat.mod_two_eq_zero_or_one i with heven | hodd
      · rw [sibling_of_even heven, sibling_of_even heven, List.getElem?_take_of_lt (by omega)]
      · rw [sibling_of_odd hodd, sibling_of_odd hodd, List.getElem?_take_of_lt (by omega)]
    have hlt : i < (xs.take (2 ^ (k + 1))).length := by
      rw [List.length_take_of_le (by omega)]
      omega
    rw [path_step node (by omega), hih, hsibling, path_step node hlt, List.append_assoc]

theorem path_split_right {k : ℕ} {xs : List α} {i : ℕ} (hlow : 2 ^ k ≤ i)
    (hi : i < xs.length) (hhigh : xs.length ≤ 2 ^ (k + 1)) :
    path node xs i =
      path node (xs.drop (2 ^ k)) (i - 2 ^ k) ++ [top node d (xs.take (2 ^ k))] := by
  induction k generalizing xs i with
  | zero =>
    match xs, hi, hhigh with
    | [a, b], hi, _ =>
      obtain rfl : i = 1 := by simp at hlow hi; omega
      rw [path_odd node (p := a) rfl hi rfl]
      simp [path, List.take]
    | [], hi, _ => simp at hi
    | [a], hi, _ =>
      simp at hlow hi
      omega
    | a :: b :: c :: rest, _, hhigh => simp at hhigh
  | succ k ih =>
    have hlevel := length_level node xs
    have hpow := pow_succ 2 k
    have hpow' := pow_succ 2 (k + 1)
    have hih := @ih (level node xs) (i / 2) (by omega) (by omega) (by omega)
    rw [take_level, drop_level, ← pow_succ', top_level] at hih
    have hhalf : (i - 2 ^ (k + 1)) / 2 = i / 2 - 2 ^ k := by omega
    have hsibling : sibling xs i = sibling (xs.drop (2 ^ (k + 1))) (i - 2 ^ (k + 1)) := by
      rcases Nat.mod_two_eq_zero_or_one i with heven | hodd
      · rw [sibling_of_even heven, sibling_of_even (by omega), List.getElem?_drop]
        congr 1
        omega
      · rw [sibling_of_odd hodd, sibling_of_odd (by omega), List.getElem?_drop]
        congr 1
        omega
    have hlt : i - 2 ^ (k + 1) < (xs.drop (2 ^ (k + 1))).length := by
      rw [List.length_drop]
      omega
    rw [path_step node hi, hih, hsibling, path_step node hlt, hhalf, List.append_assoc]

/-! ## Beginnings of a tree -/

/-- The neighbours on the left of an index are its path in the tree that ends there. -/
theorem Ascent.leftNodes_path {xs : List α} {i : ℕ} {x : α} (h : Ascent node xs i x)
    {ys : List α} (hys : ys.length = i + 1) (hsame : ys.take i = xs.take i) :
    leftNodes (sides i (xs.length - 1)) (path node xs i) = path node ys i := by
  induction h generalizing ys with
  | single x =>
    obtain ⟨y, rfl⟩ := List.length_eq_one_iff.mp hys
    simp [path_singleton, leftNodes]
  | @odd xs i p x hi hp hx _ ih =>
    obtain ⟨hpath, hsides⟩ := path_sides_odd node hi hp hx
    have hp' : ys[i - 1]? = some p := by
      rw [← hp, ← List.getElem?_take_of_lt (j := i) (by omega), hsame,
        List.getElem?_take_of_lt (by omega)]
    have htake : (level node ys).take (i / 2) = (level node xs).take (i / 2) := by
      have hle : 2 * (i / 2) ≤ i := by omega
      rw [take_level, take_level, ← min_eq_left hle, ← List.take_take, hsame, List.take_take]
    rw [hpath, hsides, leftNodes, ih (by rw [length_level]; omega) htake,
      path_odd node hi (by omega) hp']
  | @last xs i x hi _ hlast _ ih =>
    obtain ⟨hpath, hsides⟩ := path_sides_last node hi hlast
    have htake : (level node ys).take (i / 2) = (level node xs).take (i / 2) := by
      rw [take_level, take_level, show 2 * (i / 2) = i by omega, hsame]
    rw [hpath, hsides, ih (by rw [length_level]; omega) htake, path_last node hi hys]
  | @even xs i p x hi _ hp _ ih =>
    obtain ⟨hpath, hsides⟩ := path_sides_even node hi hp
    have htake : (level node ys).take (i / 2) = (level node xs).take (i / 2) := by
      rw [take_level, take_level, show 2 * (i / 2) = i by omega, hsame]
    rw [hpath, hsides, leftNodes, ih (by rw [length_level]; omega) htake, path_last node hi hys]

/-- Combining from the left. -/
def ascendLeft (proof : List α) (x : α) : α := proof.foldl (fun x p => node p x) x

/-- The number of bits that are set. -/
def popcount (n : ℕ) : ℕ := n.bits.count true

theorem popcount_even {n : ℕ} (hn : n % 2 = 0) : popcount n = popcount (n / 2) := by
  by_cases hzero : n = 0
  · rw [hzero]
  have hbits : n.bits = false :: (n / 2).bits := by
    rw [← Nat.bit0_bits (n / 2) (by omega)]
    congr 1
    omega
  simp [popcount, hbits]

theorem popcount_odd {n : ℕ} (hn : n % 2 = 1) : popcount n = popcount (n / 2) + 1 := by
  have hbits : n.bits = true :: (n / 2).bits := by
    rw [← Nat.bit1_bits (n / 2)]
    congr 1
    omega
  simp [popcount, hbits]

/-- All neighbours of a last index stand on the left, one for each bit of the index. -/
theorem sides_self (i : ℕ) : sides i i = List.replicate (popcount i) .left := by
  induction i using Nat.strong_induction_on with
  | _ i ih =>
    by_cases hzero : i = 0
    · rw [hzero, sides_zero]
      rfl
    rcases Nat.mod_two_eq_zero_or_one i with hi | hi
    · rw [sides_last hi, ih _ (by omega), popcount_even hi]
    · rw [sides_odd hzero hi, ih _ (by omega), popcount_odd hi, List.replicate_succ]

theorem ascend_replicate {k : ℕ} {proof : List α} (hproof : proof.length = k) (x : α) :
    ascend node (List.replicate k .left) proof x = ascendLeft node proof x := by
  induction proof generalizing k x with
  | nil =>
    subst hproof
    rfl
  | cons p proof ih =>
    subst hproof
    rw [List.length_cons, List.replicate_succ, ascend, ih rfl]
    rfl

/-- The tops of a tree and of its beginning up to an index are combined from one path. -/
theorem Ascent.top_take {xs : List α} {i : ℕ} {x : α} (h : Ascent node xs i x)
    (hx : xs[i]? = some x) :
    ascendLeft node (leftNodes (sides i (xs.length - 1)) (path node xs i)) x =
      top node d (xs.take (i + 1)) := by
  have hlt := h.lt
  have hlength : (xs.take (i + 1)).length = i + 1 := List.length_take_of_le hlt
  have hget : (xs.take (i + 1))[i]? = some x := by
    rw [List.getElem?_take_of_lt (Nat.lt_succ_self i), hx]
  have hprefix := ascent_of_get node hget
  have hlen := hprefix.length_path
  have htop := hprefix.ascend_path node d
  rw [hlength, Nat.add_sub_cancel, sides_self] at hlen htop
  rw [List.length_replicate] at hlen
  rw [h.leftNodes_path node hlength (by simp [List.take_take]), ← htop,
    ascend_replicate node hlen]

/-! ## Complete subtrees -/

/-- The tops of the complete trees that a tree is made of, the largest first : their sizes are
the powers of two that its size is the sum of. -/
def subtrees : List α → List α
  | [] => []
  | a :: rest =>
    top node d ((a :: rest).take (2 ^ Nat.log 2 (rest.length + 1))) ::
      subtrees ((a :: rest).drop (2 ^ Nat.log 2 (rest.length + 1)))
termination_by xs => xs.length
decreasing_by
  have := Nat.two_pow_pos (Nat.log 2 (rest.length + 1))
  simp only [List.length_drop, List.length_cons]
  omega

@[simp] theorem subtrees_nil : subtrees node d [] = [] := by rw [subtrees]

theorem subtrees_of_ne {xs : List α} (hxs : xs ≠ []) :
    subtrees node d xs = top node d (xs.take (2 ^ Nat.log 2 xs.length)) ::
      subtrees node d (xs.drop (2 ^ Nat.log 2 xs.length)) := by
  match xs, hxs with
  | a :: rest, _ => rw [subtrees, List.length_cons]

@[simp] theorem subtrees_singleton (a : α) : subtrees node d [a] = [a] := by
  rw [subtrees_of_ne node d (by simp)]
  simp [List.take]

theorem log_two_succ_of_even {n : ℕ} (hn : n % 2 = 0) (hpos : n ≠ 0) :
    Nat.log 2 (n + 1) = Nat.log 2 n := by
  rw [Nat.log_of_one_lt_of_le one_lt_two (show 2 ≤ n + 1 by omega),
    Nat.log_of_one_lt_of_le one_lt_two (show 2 ≤ n by omega), show (n + 1) / 2 = n / 2 by omega]

theorem subtrees_level {xs : List α} (hxs : xs.length % 2 = 0) :
    subtrees node d (level node xs) = subtrees node d xs := by
  induction hn : xs.length using Nat.strong_induction_on generalizing xs with
  | _ n ih =>
    by_cases hne : xs = []
    · rw [hne, level_nil]
    have hpos := List.length_pos_iff.mpr hne
    have hlevel : (level node xs).length = xs.length / 2 := by
      rw [length_level]
      omega
    have hlog : 2 * 2 ^ Nat.log 2 (level node xs).length = 2 ^ Nat.log 2 xs.length := by
      rw [← pow_succ', hlevel, ← Nat.log_of_one_lt_of_le one_lt_two (show 2 ≤ xs.length by omega)]
    have hle := Nat.pow_log_le_self 2 hpos.ne'
    have hdrop : (xs.drop (2 ^ Nat.log 2 xs.length)).length % 2 = 0 := by
      rw [List.length_drop]
      omega
    have hpow := Nat.two_pow_pos (Nat.log 2 (level node xs).length)
    rw [subtrees_of_ne node d hne,
      subtrees_of_ne node d (List.ne_nil_of_length_pos (by omega) : level node xs ≠ []), take_level,
      drop_level, hlog, top_level, ih _ (by rw [List.length_drop]; omega) hdrop rfl]

theorem subtrees_append_singleton {xs : List α} (hxs : xs.length % 2 = 0) (a : α) :
    subtrees node d (xs ++ [a]) = subtrees node d xs ++ [a] := by
  induction hn : xs.length using Nat.strong_induction_on generalizing xs with
  | _ n ih =>
    by_cases hne : xs = []
    · subst hne
      rw [List.nil_append, subtrees_of_ne node d (by simp)]
      simp [List.take]
    have hpos := List.length_pos_iff.mpr hne
    have hle := Nat.pow_log_le_self 2 hpos.ne'
    have hpow := Nat.two_pow_pos (Nat.log 2 xs.length)
    have hdrop : (xs.drop (2 ^ Nat.log 2 xs.length)).length % 2 = 0 := by
      have hlog := Nat.log_of_one_lt_of_le one_lt_two (show 2 ≤ xs.length by omega)
      rw [List.length_drop, hlog, pow_succ]
      omega
    rw [subtrees_of_ne node d (by simp), List.length_append, List.length_singleton,
      log_two_succ_of_even hxs hpos.ne', List.take_append_of_le_length hle,
      List.drop_append_of_le_length hle, ih _ (by rw [List.length_drop]; omega) hdrop rfl,
      subtrees_of_ne node d hne, List.cons_append]

/-- A tree has one complete subtree for each bit of its size. -/
theorem length_subtrees (xs : List α) : (subtrees node d xs).length = popcount xs.length := by
  induction xs using level_induction node with
  | nil => simp [popcount]
  | even xs hne hxs ih =>
    rw [← subtrees_level node d hxs, ih, length_level, popcount_even hxs]
    congr 1
    omega
  | snoc xs a hxs ih =>
    have hhalf : (xs.length + 1) / 2 = xs.length / 2 := by omega
    rw [subtrees_append_singleton node d hxs, List.length_append, List.length_append,
      List.length_singleton, ih, popcount_odd (n := xs.length + 1) (by omega), hhalf,
      popcount_even hxs]

/-- The path of an index behind a tree lists the complete subtrees, the smallest first. -/
theorem path_append_singleton (xs : List α) (a : α) :
    path node (xs ++ [a]) xs.length = (subtrees node d xs).reverse := by
  induction xs using level_induction node generalizing a with
  | nil => simp [path_singleton]
  | even xs hne hxs ih =>
    have hlevel : xs.length / 2 = (level node xs).length := by
      rw [length_level]
      omega
    rw [path_last node hxs (by simp), level_append node hxs, level_singleton, hlevel, ih,
      subtrees_level node d hxs]
  | snoc xs b hxs ih =>
    have hlevel : (xs.length + 1) / 2 = xs.length / 2 := by omega
    have hlast : (xs ++ [node b a]).length = xs.length + 1 := by simp
    have hup := path_last node hxs hlast
    rw [level_append node hxs, level_singleton, ih] at hup
    rw [List.append_assoc, List.length_append, List.length_singleton,
      path_odd node (p := b) (by omega) (by simp) (by simp), level_append node hxs,
      List.singleton_append, level_cons_cons, level_nil, hlevel, ← hup,
      subtrees_append_singleton node d hxs, List.reverse_append]
    rfl

/-- A hash behind the complete subtrees of a tree makes the top of the tree it is behind. -/
theorem ascendLeft_subtrees (xs : List α) (a : α) :
    ascendLeft node (subtrees node d xs).reverse a = top node d (xs ++ [a]) := by
  have hlast := ascent_of_get node (show (xs ++ [a])[xs.length]? = some a by simp)
  have hlen := hlast.length_path
  have htop := hlast.ascend_path node d
  rw [List.length_append, List.length_singleton, Nat.add_sub_cancel, sides_self] at hlen htop
  rw [List.length_replicate] at hlen
  rw [← htop, ascend_replicate node hlen, path_append_singleton node d]

/-- The top of a tree is combined from its complete subtrees, the smallest first. -/
theorem exists_subtrees_top {xs : List α} (hxs : xs ≠ []) :
    ∃ larger smallest, subtrees node d xs = larger ++ [smallest] ∧
      ascendLeft node larger.reverse smallest = top node d xs := by
  induction xs using level_induction node with
  | nil => exact absurd rfl hxs
  | even xs hne heven ih =>
    have hlevel := levels_ne_nil node hne 1
    rw [← subtrees_level node d heven, ← top_level]
    exact ih hlevel
  | snoc xs a heven _ =>
    exact ⟨subtrees node d xs, a, subtrees_append_singleton node d heven a,
      ascendLeft_subtrees node d xs a⟩

end MerkleTrees
