import Mathlib

/-!
# Rows, orders and strands

A table is a list of rows whose order says nothing. This file has the queries a
store asks of one : the row of a key (`findBy`), the rows in the order of a numeric
column (`orderBy`), the row with the greatest value of a column (`topBy`), the weight of
the rows that meet a condition (`weigh`). `Appends` says that a table has grown by rows of
a kind, so that other queries are unaffected.

A journal interleaves strands : every entry belongs to one (`key`) and has an index
in it (`idx`). `Numbered` says that the indices of each strand run 0, 1, 2, … along
the journal. The predecessor of an entry is the last entry of its strand before it
(`lastOf`), and it is also the entry with the greatest index so far, however the
entries are listed (`Numbered.lastOf_eq_topBy`).
-/

namespace Rows

variable {α κ : Type}

/-! ## The row of a key -/

section FindBy

variable [DecidableEq κ] (f : α → κ)

/-- The row of `l` with key `k`. -/
def findBy (k : κ) (l : List α) : Option α := l.find? fun a => f a = k

variable {f} {k : κ} {l m : List α} {a : α}

theorem mem_of_findBy (h : findBy f k l = some a) : a ∈ l :=
  List.mem_of_find?_eq_some h

theorem key_of_findBy (h : findBy f k l = some a) : f a = k := by
  simpa using List.find?_some h

theorem findBy_eq_none : findBy f k l = none ↔ ∀ a ∈ l, f a ≠ k := by
  simp [findBy]

theorem findBy_isSome : (findBy f k l).isSome ↔ ∃ a ∈ l, f a = k := by
  simp [findBy]

/-- With unique keys the row of a key is the row that has it. -/
theorem findBy_eq_some (h : (l.map f).Nodup) : findBy f k l = some a ↔ a ∈ l ∧ f a = k := by
  constructor
  · exact fun ha => ⟨mem_of_findBy ha, key_of_findBy ha⟩
  · rintro ⟨ha, rfl⟩
    have hs : (findBy f (f a) l).isSome := findBy_isSome.mpr ⟨a, ha, rfl⟩
    obtain ⟨b, hb⟩ := Option.isSome_iff_exists.mp hs
    rw [hb, List.inj_on_of_nodup_map h (mem_of_findBy hb) ha (key_of_findBy hb)]

/-- With unique keys the rows of a key are its one row. -/
theorem filter_eq_of_findBy (h : (l.map f).Nodup) (ha : findBy f k l = some a) :
    l.filter (fun b => f b = k) = [a] := by
  induction l with
  | nil => simp [findBy] at ha
  | cons b l ih =>
    rw [List.map_cons, List.nodup_cons] at h
    by_cases hb : f b = k
    · obtain rfl : b = a := by simpa [findBy, hb] using ha
      rw [List.filter_cons_of_pos (by simpa using hb), List.cons_inj_right,
        List.filter_eq_nil_iff]
      intro c hc
      simpa using fun hck => h.1 (List.mem_map.mpr ⟨c, hc, hck.trans hb.symm⟩)
    · rw [List.filter_cons_of_neg (by simpa using hb)]
      exact ih h.2 (by simpa [findBy, hb] using ha)

/-- A row with a key that is free keeps the keys unique. -/
theorem nodup_map_snoc {β : Type} {g : α → β} (h : (l.map g).Nodup) (ha : ∀ b ∈ l, g b ≠ g a) :
    ((l ++ [a]).map g).Nodup := by
  rw [List.map_append, List.map_singleton]
  refine List.nodup_append.mpr ⟨h, List.nodup_singleton _, ?_⟩
  rintro i hi j hj rfl
  obtain ⟨b, hb, rfl⟩ := List.mem_map.mp hi
  exact ha b hb (List.mem_singleton.mp hj)

/-- The only row that meets a query is its answer. -/
theorem find?_eq_some_of_unique {q : α → Bool} (ha : a ∈ l) (hq : q a = true)
    (h : ∀ b ∈ l, q b = true → b = a) : l.find? q = some a := by
  cases hf : l.find? q with
  | none => exact absurd hq (by simpa using List.find?_eq_none.mp hf a ha)
  | some b => rw [h b (List.mem_of_find?_eq_some hf) (List.find?_some hf)]

/-- Rows with other keys do not change the row of a key. -/
theorem findBy_append_of_ne (h : ∀ b ∈ m, f b ≠ k) : findBy f k (l ++ m) = findBy f k l := by
  have hm : m.find? (fun a => decide (f a = k)) = none := findBy_eq_none.mpr h
  rw [findBy, List.find?_append, hm, Option.or_none]
  rfl

/-- A row that is there stays the row of its key. -/
theorem findBy_append_of_isSome (h : (findBy f k l).isSome) :
    findBy f k (l ++ m) = findBy f k l := by
  obtain ⟨a, ha⟩ := Option.isSome_iff_exists.mp h
  have ha' : l.find? (fun a => decide (f a = k)) = some a := ha
  rw [ha, findBy, List.find?_append, ha', Option.some_or]

theorem findBy_append_self (hne : ∀ b ∈ l, f b ≠ f a) : findBy f (f a) (l ++ [a]) = some a := by
  have hl : l.find? (fun b => decide (f b = f a)) = none := findBy_eq_none.mpr hne
  rw [findBy, List.find?_append, hl]
  simp

end FindBy

/-! ## Tables that grow -/

section Appends

/-- `l'` is `l` with rows appended that all satisfy `P`. -/
def Appends (P : α → Prop) (l l' : List α) : Prop := ∃ m, l' = l ++ m ∧ ∀ a ∈ m, P a

variable {P P' : α → Prop} {l l' l'' : List α}

theorem Appends.refl : Appends P l l := ⟨[], by simp, by simp⟩

theorem Appends.snoc {a : α} (h : P a) : Appends P l (l ++ [a]) := ⟨[a], rfl, by simpa⟩

theorem Appends.trans (h : Appends P l l') (h' : Appends P l' l'') : Appends P l l'' := by
  obtain ⟨m, rfl, hm⟩ := h
  obtain ⟨n, rfl, hn⟩ := h'
  refine ⟨m ++ n, by simp, fun a ha => ?_⟩
  rcases List.mem_append.mp ha with ha | ha
  · exact hm a ha
  · exact hn a ha

theorem Appends.mono (h : Appends P l l') (hP : ∀ a, P a → P' a) : Appends P' l l' := by
  obtain ⟨m, rfl, hm⟩ := h
  exact ⟨m, rfl, fun a ha => hP a (hm a ha)⟩

theorem Appends.mem (h : Appends P l l') {a : α} (ha : a ∈ l) : a ∈ l' := by
  obtain ⟨m, rfl, -⟩ := h
  exact List.mem_append_left m ha

theorem Appends.mem_or (h : Appends P l l') {a : α} (ha : a ∈ l') : a ∈ l ∨ P a := by
  obtain ⟨m, rfl, hm⟩ := h
  exact (List.mem_append.mp ha).imp_right (hm a)

/-- A query that the new rows do not meet has the same answer. -/
theorem Appends.filter_eq (h : Appends P l l') (q : α → Bool) (hq : ∀ a, P a → q a = false) :
    l'.filter q = l.filter q := by
  obtain ⟨m, rfl, hm⟩ := h
  have hnil : m.filter q = [] := List.filter_eq_nil_iff.mpr fun a ha => by simp [hq a (hm a ha)]
  rw [List.filter_append, hnil, List.append_nil]

theorem Appends.findBy_eq [DecidableEq κ] {f : α → κ} {k : κ} (h : Appends P l l')
    (hk : ∀ a, P a → f a ≠ k) : findBy f k l' = findBy f k l := by
  obtain ⟨m, rfl, hm⟩ := h
  exact findBy_append_of_ne fun b hb => hk b (hm b hb)

theorem Appends.findBy_of_isSome [DecidableEq κ] {f : α → κ} {k : κ} (h : Appends P l l')
    (hk : (findBy f k l).isSome) : findBy f k l' = findBy f k l := by
  obtain ⟨m, rfl, -⟩ := h
  exact findBy_append_of_isSome hk

end Appends

/-! ## Rows in order -/

section OrderBy

variable (f : α → ℕ)

/-- The rows in ascending order of `f`. -/
def orderBy (l : List α) : List α := l.insertionSort fun a b => f a ≤ f b

/-- The row with the greatest `f`. -/
def topBy (l : List α) : Option α := (l.insertionSort fun a b => f b ≤ f a).head?

variable {f} {l : List α} {a : α}

theorem orderBy_perm : (orderBy f l).Perm l := List.perm_insertionSort _ l

theorem mem_orderBy : a ∈ orderBy f l ↔ a ∈ l := orderBy_perm.mem_iff

theorem length_orderBy : (orderBy f l).length = l.length := orderBy_perm.length_eq

theorem orderBy_pairwise : (orderBy f l).Pairwise fun a b => f a ≤ f b := by
  have : Std.Total fun a b : α => f a ≤ f b := ⟨fun a b => le_total (f a) (f b)⟩
  have : IsTrans α fun a b : α => f a ≤ f b := ⟨fun _ _ _ => le_trans⟩
  exact List.pairwise_insertionSort _ l

theorem topBy_eq_none : topBy f l = none ↔ l = [] := by
  have h := List.perm_insertionSort (fun a b => f b ≤ f a) l
  rw [topBy, List.head?_eq_none_iff]
  exact ⟨fun hnil => List.perm_nil.mp (hnil ▸ h.symm), fun hnil => by rw [hnil]; rfl⟩

theorem mem_of_topBy (h : topBy f l = some a) : a ∈ l :=
  (List.perm_insertionSort (fun a b => f b ≤ f a) l).mem_iff.mp (List.mem_of_mem_head? h)

theorem le_of_topBy (h : topBy f l = some a) {b : α} (hb : b ∈ l) : f b ≤ f a := by
  have : Std.Total fun a b : α => f b ≤ f a := ⟨fun a b => le_total (f b) (f a)⟩
  have : IsTrans α fun a b : α => f b ≤ f a := ⟨fun _ _ _ hab hbc => le_trans hbc hab⟩
  have hs := List.pairwise_insertionSort (fun a b : α => f b ≤ f a) l
  have hb' : b ∈ l.insertionSort fun a b => f b ≤ f a :=
    (List.perm_insertionSort (fun a b => f b ≤ f a) l).mem_iff.mpr hb
  unfold topBy at h
  cases hl : l.insertionSort fun a b => f b ≤ f a with
  | nil => simp [hl] at h
  | cons c t =>
    rw [hl] at h hs hb'
    obtain rfl : c = a := by simpa using h
    rcases List.mem_cons.mp hb' with rfl | hb'
    · exact le_rfl
    · exact List.rel_of_pairwise_cons hs hb'

/-- The row that is strictly above every other one is the top row. -/
theorem topBy_eq_some (ha : a ∈ l) (h : ∀ b ∈ l, b = a ∨ f b < f a) : topBy f l = some a := by
  cases ht : topBy f l with
  | none => simp [topBy_eq_none.mp ht] at ha
  | some c =>
    rcases h c (mem_of_topBy ht) with rfl | hlt
    · rfl
    · have := le_of_topBy ht ha
      omega

theorem orderedInsert_snoc {x : α} (ha : f a ≤ f x) (s : List α) :
    (s ++ [x]).orderedInsert (fun a b => f a ≤ f b) a =
      s.orderedInsert (fun a b => f a ≤ f b) a ++ [x] := by
  induction s with
  | nil => simp [List.orderedInsert, ha]
  | cons b s ih =>
    simp only [List.cons_append, List.orderedInsert_cons]
    split_ifs with hab
    · rfl
    · rw [ih, List.cons_append]

/-- A row above all others comes last. -/
theorem orderBy_snoc {x : α} (h : ∀ a ∈ l, f a ≤ f x) :
    orderBy f (l ++ [x]) = orderBy f l ++ [x] := by
  unfold orderBy
  induction l with
  | nil => rfl
  | cons a l ih =>
    rw [List.cons_append, List.insertionSort_cons, List.insertionSort_cons,
      ih fun b hb => h b (List.mem_cons_of_mem _ hb)]
    exact orderedInsert_snoc (h a List.mem_cons_self) _

/-- When every row's `f` counts the rows below it, and no two rows agree on `f`, the row
at position `i` has `f = i`. -/
theorem orderBy_rank (hn : (l.map f).Nodup)
    (hr : ∀ a ∈ l, f a = (l.filter fun b => f b < f a).length) {pre post : List α} {a : α}
    (h : orderBy f l = pre ++ a :: post) : f a = pre.length := by
  have hs : (pre ++ a :: post).Pairwise fun a b => f a ≤ f b := h ▸ orderBy_pairwise
  have hp : (pre ++ a :: post).Perm l := h ▸ orderBy_perm
  have hn' : ((pre ++ a :: post).map f).Nodup := (hp.map f).nodup_iff.mpr hn
  rw [hr a (hp.mem_iff.mp (by simp)), ← (hp.filter _).length_eq]
  congr 1
  -- Everything before `a` is below it, and nothing after it is.
  have hpre : ∀ b ∈ pre, f b < f a := by
    intro b hb
    have hle := (List.pairwise_append.mp hs).2.2 b hb a List.mem_cons_self
    refine lt_of_le_of_ne hle fun heq => ?_
    rw [List.map_append, List.nodup_append] at hn'
    exact hn'.2.2 _ (List.mem_map_of_mem hb) _ (by simp) heq
  have hpost : ∀ b ∈ post, ¬f b < f a := fun b hb =>
    not_lt.mpr (List.rel_of_pairwise_cons (List.pairwise_append.mp hs).2.1 hb)
  rw [List.filter_append, List.filter_cons_of_neg (by simp), List.filter_eq_self.mpr (by simpa),
    List.filter_eq_nil_iff.mpr (by simpa using hpost), List.append_nil]

end OrderBy

/-! ## Weights -/

section Weigh

variable (w : α → ℕ)

/-- The weight of the rows that meet a condition. -/
def weigh (q : α → Prop) [DecidablePred q] (l : List α) : ℕ := ((l.filter q).map w).sum

variable {w} {q q' : α → Prop} [DecidablePred q] [DecidablePred q'] {l m : List α}

theorem weigh_add_not : weigh w q l + weigh w (fun a => ¬q a) l = (l.map w).sum :=
  List.sum_map_filter_add_sum_map_filter_not q w l

theorem weigh_append : weigh w q (l ++ m) = weigh w q l + weigh w q m := by
  simp [weigh]

theorem weigh_of_forall_not (h : ∀ a ∈ l, ¬q a) : weigh w q l = 0 := by
  rw [weigh, List.filter_eq_nil_iff.mpr fun a ha => by simpa using h a ha, List.map_nil,
    List.sum_nil]

theorem weigh_cons (a : α) : weigh w q (a :: l) = (if q a then w a else 0) + weigh w q l := by
  by_cases hq : q a <;> simp [weigh, hq]

/-- A weaker condition weighs more. -/
theorem weigh_mono (h : ∀ a ∈ l, q a → q' a) : weigh w q l ≤ weigh w q' l := by
  induction l with
  | nil => exact le_rfl
  | cons a l ih =>
    have hrest := ih fun b hb => h b (List.mem_cons_of_mem a hb)
    rw [weigh_cons, weigh_cons]
    split_ifs with hq hq'
    · omega
    · exact absurd (h a List.mem_cons_self hq) hq'
    · omega
    · omega

/-- At most one row has a key, so the rows of a key weigh at most what one row may. -/
theorem weigh_key_le [DecidableEq κ] {key : α → κ} {k : κ} {n : ℕ} (hn : (l.map key).Nodup)
    (hle : ∀ a ∈ l, w a ≤ n) : weigh w (fun a => key a = k) l ≤ n := by
  induction l with
  | nil => exact Nat.zero_le n
  | cons a l ih =>
    rw [List.map_cons, List.nodup_cons] at hn
    rw [weigh_cons]
    split_ifs with hk
    · have hrest : weigh w (fun b => key b = k) l = 0 :=
        weigh_of_forall_not fun b hb hbk => hn.1 (List.mem_map.mpr ⟨b, hb, hbk.trans hk.symm⟩)
      have := hle a List.mem_cons_self
      omega
    · have := ih hn.2 fun b hb => hle b (List.mem_cons_of_mem a hb)
      omega

end Weigh

/-! ## Strands of a journal -/

section Strands

variable [DecidableEq κ] (key : α → κ) (idx : α → ℕ)

/-- The last entry of strand `k` in `l`. -/
def lastOf (k : κ) (l : List α) : Option α := (l.filter fun a => key a = k).getLast?

/-- Each entry's index is one more than that of the last entry of its strand before it. -/
def Numbered (l : List α) : Prop :=
  ∀ pre a post, l = pre ++ a :: post → idx a = (lastOf key (key a) pre).elim 0 fun b => idx b + 1

variable {key idx} {l pre post : List α} {a b c : α} {k : κ}

theorem mem_of_lastOf (h : lastOf key k l = some a) : a ∈ l ∧ key a = k := by
  simpa using List.mem_of_getLast? h

theorem lastOf_eq_none : lastOf key k l = none ↔ ∀ a ∈ l, key a ≠ k := by
  simp [lastOf]

theorem lastOf_snoc : lastOf key k (l ++ [a]) = if key a = k then some a else lastOf key k l := by
  unfold lastOf
  rw [List.filter_append]
  split_ifs with h <;> simp [h]

theorem Numbered.nil : Numbered key idx [] := fun pre a post h => by simp at h

theorem Numbered.of_append {m : List α} (h : Numbered key idx (l ++ m)) : Numbered key idx l := by
  rintro pre a post rfl
  exact h pre a (post ++ m) (by simp)

theorem Numbered.last (h : Numbered key idx (l ++ [a])) :
    idx a = (lastOf key (key a) l).elim 0 fun b => idx b + 1 :=
  h l a [] rfl

theorem Numbered.snoc (h : Numbered key idx l)
    (ha : idx a = (lastOf key (key a) l).elim 0 fun b => idx b + 1) :
    Numbered key idx (l ++ [a]) := by
  intro pre b post heq
  rcases List.eq_nil_or_concat post with rfl | ⟨post, c, rfl⟩
  · obtain ⟨rfl, hb⟩ := List.append_inj' heq rfl
    obtain rfl : a = b := by simpa using hb
    exact ha
  · rw [List.concat_eq_append, ← List.cons_append, ← List.append_assoc] at heq
    exact h pre b post (List.append_inj' heq rfl).1

/-- The last entry of a strand has the greatest index in it. -/
theorem Numbered.le_lastOf (h : Numbered key idx l) (hc : lastOf key k l = some c)
    (hb : b ∈ l) (hk : key b = k) : b = c ∨ idx b < idx c := by
  induction l using List.reverseRecOn generalizing c with
  | nil => simp at hb
  | append_singleton l x ih =>
    rw [lastOf_snoc] at hc
    split_ifs at hc with hx
    · obtain rfl : x = c := Option.some.inj hc
      rcases List.mem_append.mp hb with hb | hb
      · have hidx := h.last
        cases hl : lastOf key (key x) l with
        | none => exact absurd (hk.trans hx.symm) (lastOf_eq_none.mp hl b hb)
        | some d =>
          rw [hl, Option.elim_some] at hidx
          rcases ih h.of_append (hx ▸ hl) hb with rfl | hlt <;> omega
      · exact Or.inl (List.mem_singleton.mp hb)
    · rcases List.mem_append.mp hb with hb | hb
      · exact ih h.of_append hc hb
      · exact absurd (List.mem_singleton.mp hb ▸ hk) hx

/-- The last entry of a strand, with what comes before and after it. -/
theorem lastOf_eq_some_iff_split : lastOf key k l = some b ↔
    key b = k ∧ ∃ l₁ l₂, l = l₁ ++ b :: l₂ ∧ ∀ c ∈ l₂, key c ≠ k := by
  constructor
  · intro h
    refine ⟨(mem_of_lastOf h).2, ?_⟩
    induction l using List.reverseRecOn with
    | nil => simp [lastOf] at h
    | append_singleton l x ih =>
      rw [lastOf_snoc] at h
      split_ifs at h with hx
      · obtain rfl := Option.some.inj h
        exact ⟨l, [], rfl, by simp⟩
      · obtain ⟨l₁, l₂, rfl, hl₂⟩ := ih h
        refine ⟨l₁, l₂ ++ [x], by simp, fun c hc => ?_⟩
        rcases List.mem_append.mp hc with hc | hc
        · exact hl₂ c hc
        · exact (List.mem_singleton.mp hc) ▸ hx
  · rintro ⟨hb, l₁, l₂, rfl, hl₂⟩
    have hnil : l₂.filter (fun c => key c = k) = [] :=
      List.filter_eq_nil_iff.mpr fun c hc => by simpa using hl₂ c hc
    rw [lastOf, List.filter_append, List.filter_cons_of_pos (by simpa using hb), hnil]
    simp

/-- An entry's index counts the entries of its strand before it. -/
theorem Numbered.idx_eq_length (h : Numbered key idx (pre ++ a :: post)) :
    idx a = (pre.filter fun b => key b = key a).length := by
  induction hn : pre.length using Nat.strong_induction_on generalizing pre a post with
  | _ n ih =>
    rw [h pre a post rfl]
    cases hl : lastOf key (key a) pre with
    | none =>
      have hnil : pre.filter (fun b => key b = key a) = [] :=
        List.filter_eq_nil_iff.mpr fun b hb => by simpa using lastOf_eq_none.mp hl b hb
      rw [hnil]
      rfl
    | some b =>
      -- The entries of the strand are those before its last one, and that one.
      obtain ⟨hb, l₁, l₂, rfl, hl₂⟩ := lastOf_eq_some_iff_split.mp hl
      have hnil : l₂.filter (fun c => key c = key a) = [] :=
        List.filter_eq_nil_iff.mpr fun c hc => by simpa using hl₂ c hc
      have hb' : Numbered key idx (l₁ ++ b :: (l₂ ++ a :: post)) := by simpa using h
      have hih := ih l₁.length (by simp at hn; omega) hb' rfl
      rw [Option.elim_some, hih, hb, List.filter_append,
        List.filter_cons_of_pos (by simpa using hb), hnil]
      simp

/-- The first entry of a strand has index zero, and only it. -/
theorem Numbered.lastOf_eq_none_iff (h : Numbered key idx (pre ++ a :: post)) :
    lastOf key (key a) pre = none ↔ idx a = 0 := by
  have hidx := h pre a post rfl
  cases hl : lastOf key (key a) pre with
  | none => simp [hl] at hidx; simp [hidx]
  | some c => simp [hl] at hidx; simp [hidx]

/-- The last entry of a strand is the one with the greatest index, however the entries
are listed. -/
theorem Numbered.lastOf_eq_topBy {r : List α} (h : Numbered key idx l) (hp : r.Perm l) :
    topBy idx (r.filter fun a => key a = k) = lastOf key k l := by
  cases hl : lastOf key k l with
  | none =>
    rw [topBy_eq_none, List.filter_eq_nil_iff]
    intro a ha
    simpa using lastOf_eq_none.mp hl a (hp.mem_iff.mp ha)
  | some c =>
    obtain ⟨hc, hk⟩ := mem_of_lastOf hl
    refine topBy_eq_some (by simp [hp.mem_iff, hc, hk]) fun b hb => ?_
    obtain ⟨hb, hbk⟩ := List.mem_filter.mp hb
    exact h.le_lastOf hl (hp.mem_iff.mp hb) (by simpa using hbk)

theorem lastOf_unit : lastOf (fun _ : α => ()) () l = l.getLast? := by
  simp [lastOf]

/-- A journal whose indices are its positions is one numbered strand. -/
theorem Numbered.of_positions (h : ∀ pre a post, l = pre ++ a :: post → idx a = pre.length) :
    Numbered (fun _ => ()) idx l := by
  intro pre a post heq
  rw [h pre a post heq]
  rcases List.eq_nil_or_concat pre with rfl | ⟨p, b, rfl⟩
  · rfl
  · rw [List.concat_eq_append] at heq ⊢
    have hb := h p b (a :: post) (by rw [heq]; simp)
    rw [lastOf_snoc]
    simp [hb]

end Strands

end Rows
