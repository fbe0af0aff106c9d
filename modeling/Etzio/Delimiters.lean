import Mathlib

/-!
# Delimiters

Searching a list for a pattern and cutting it at a delimiter of two elements. `find` is the
first place of a pattern : what it finds is there (`eq_of_find`), and a part without the first
element of the pattern is passed over (`find_append`).

`split` cuts a list at every delimiter and `List.intercalate` puts it together again
(`intercalate_split`, `split_intercalate`). The end of such lines is the first place of a double
delimiter when no line is empty (`find_double`).
-/

namespace Delimiters

variable {α : Type} [DecidableEq α]

/-! ## Search -/

/-- The first place of a pattern. -/
def find (pattern : List α) : List α → Option ℕ
  | [] => if pattern = [] then some 0 else none
  | c :: rest =>
    if pattern.isPrefixOf (c :: rest) then some 0 else (find pattern rest).map (· + 1)

/-- The first place of a pattern from a position on. -/
def findFrom (pattern data : List α) (start : ℕ) : Option ℕ :=
  (find pattern (data.drop start)).map (start + ·)

/-- The part from one position to another, cut short at the end. -/
def slice {α : Type} (data : List α) (start stop : ℕ) : List α :=
  (data.drop start).take (stop - start)

theorem find_of_prefix {p : α} {pattern rest : List α} :
    find (p :: pattern) (p :: pattern ++ rest) = some 0 := by
  rw [List.cons_append, find, if_pos]
  rw [List.isPrefixOf_iff_prefix, ← List.cons_append]
  exact List.prefix_append _ _

theorem find_cons_of_ne {p c : α} {pattern rest : List α} (h : p ≠ c) :
    find (p :: pattern) (c :: rest) = (find (p :: pattern) rest).map (· + 1) := by
  rw [find, if_neg]
  rw [List.isPrefixOf_iff_prefix, List.cons_prefix_cons]
  exact fun hprefix => h hprefix.1

/-- A part without the first element of the pattern is passed over. -/
theorem find_append {p : α} {pattern l rest : List α} (h : p ∉ l) :
    find (p :: pattern) (l ++ rest) = (find (p :: pattern) rest).map (l.length + ·) := by
  induction l with
  | nil => simp
  | cons c l ih =>
    obtain ⟨hc, hl⟩ := not_or.mp (mt List.mem_cons.mpr h)
    rw [List.cons_append, find_cons_of_ne hc, ih hl, Option.map_map]
    refine Option.map_congr fun i _ => ?_
    simp only [Function.comp_apply, List.length_cons]
    omega

/-- What is found is there. -/
theorem eq_of_find {pattern data : List α} {i : ℕ} (h : find pattern data = some i) :
    ∃ rest, data = data.take i ++ pattern ++ rest ∧ i ≤ data.length := by
  induction data generalizing i with
  | nil =>
    rw [find] at h
    split_ifs at h with hp
    exact ⟨[], by simp [hp], by simp_all⟩
  | cons c data ih =>
    rw [find] at h
    split_ifs at h with hp
    · obtain rfl := Option.some.inj h
      obtain ⟨rest, hrest⟩ := List.isPrefixOf_iff_prefix.mp hp
      exact ⟨rest, by simp [hrest], by simp⟩
    · obtain ⟨j, hj, rfl⟩ := Option.map_eq_some_iff.mp h
      obtain ⟨rest, hrest, hle⟩ := ih hj
      refine ⟨rest, ?_, by simpa using hle⟩
      rw [List.take_succ_cons, List.cons_append, List.cons_append, ← hrest]

/-! ## Positions -/

omit [DecidableEq α] in
/-- Past a part that starts at a position. -/
theorem drop_past {data p r : List α} {start : ℕ} (h : data.drop start = p ++ r) :
    data.drop (start + p.length) = r := by
  rw [← List.drop_drop, h, List.drop_left]

omit [DecidableEq α] in
theorem slice_of_drop {data p r : List α} {start : ℕ} (h : data.drop start = p ++ r) :
    slice data start (start + p.length) = p := by
  rw [slice, h, Nat.add_sub_cancel_left, List.take_left]

omit [DecidableEq α] in
/-- A nonempty part that is sliced out after `n` elements has that many before it. -/
theorem cut_of_slice {data p : List α} {start n : ℕ} (hne : p ≠ [])
    (h : slice data (start + n) (start + n + p.length) = p) :
    ∃ before after, data.drop start = before ++ p ++ after ∧ before.length = n := by
  rw [slice, Nat.add_sub_cancel_left, ← List.drop_drop] at h
  refine ⟨(data.drop start).take n, ((data.drop start).drop n).drop p.length, ?_, ?_⟩
  · calc data.drop start = (data.drop start).take n ++ (data.drop start).drop n :=
          (List.take_append_drop _ _).symm
      _ = (data.drop start).take n ++ (((data.drop start).drop n).take p.length ++
            ((data.drop start).drop n).drop p.length) := by
          rw [List.take_append_drop p.length]
      _ = _ := by rw [h, List.append_assoc]
  · have hlong : n < (data.drop start).length := by
      by_contra hshort
      rw [List.drop_of_length_le (Nat.le_of_not_lt hshort), List.take_nil] at h
      exact hne h.symm
    rw [List.length_take, min_eq_left hlong.le]

/-- What is found from a position on is there. -/
theorem drop_of_findFrom {pattern data : List α} {start stop : ℕ}
    (h : findFrom pattern data start = some stop) :
    ∃ part rest, data.drop start = part ++ pattern ++ rest ∧ stop = start + part.length := by
  obtain ⟨i, hi, rfl⟩ := Option.map_eq_some_iff.mp h
  obtain ⟨rest, hrest, hle⟩ := eq_of_find hi
  exact ⟨_, rest, hrest, by rw [List.length_take, min_eq_left hle]⟩

/-- The first delimiter after a part without its first element. -/
theorem findFrom_of_drop {p : α} {pattern data part rest : List α} {start : ℕ} (hp : p ∉ part)
    (h : data.drop start = part ++ p :: pattern ++ rest) :
    findFrom (p :: pattern) data start = some (start + part.length) := by
  rw [findFrom, h, List.append_assoc, find_append hp, find_of_prefix]
  rfl

/-! ## Lines -/

/-- An element at the front of the first line. -/
def consHead (c : α) : List (List α) → List (List α)
  | [] => [[c]]
  | line :: lines => (c :: line) :: lines

/-- The lines between the delimiters `a, b`. -/
def split (a b : α) : List α → List (List α)
  | [] => [[]]
  | [c] => [[c]]
  | c :: d :: rest =>
    if c = a ∧ d = b then [] :: split a b rest else consHead c (split a b (d :: rest))

variable {a b : α}

omit [DecidableEq α] in
theorem consHead_ne_nil (c : α) (lines : List (List α)) : consHead c lines ≠ [] := by
  cases lines <;> simp [consHead]

theorem split_ne_nil (data : List α) : split a b data ≠ [] := by
  fun_induction split a b data with
  | case1 => simp
  | case2 => simp
  | case3 => simp
  | case4 c d rest _ _ => exact consHead_ne_nil c _

omit [DecidableEq α] in
theorem intercalate_consHead (sep : List α) (c : α) {lines : List (List α)} (h : lines ≠ []) :
    sep.intercalate (consHead c lines) = c :: sep.intercalate lines := by
  cases lines with
  | nil => exact absurd rfl h
  | cons line lines => cases lines <;> simp [consHead, List.intercalate]

omit [DecidableEq α] in
theorem intercalate_cons_cons (sep line line' : List α) (lines : List (List α)) :
    sep.intercalate (line :: line' :: lines) =
      line ++ sep ++ sep.intercalate (line' :: lines) := by
  simp [List.intercalate]

/-- The lines of a list with the delimiter between them are the list. -/
theorem intercalate_split (data : List α) : [a, b].intercalate (split a b data) = data := by
  fun_induction split a b data with
  | case1 => rfl
  | case2 c => rfl
  | case3 c d rest h ih =>
    obtain ⟨line, lines, hlines⟩ := List.exists_cons_of_ne_nil (split_ne_nil (a := a) (b := b) rest)
    rw [hlines, intercalate_cons_cons, ← hlines, ih, h.1, h.2]
    rfl
  | case4 c d rest h ih => rw [intercalate_consHead _ _ (split_ne_nil _), ih]

theorem split_append_of_notMem {l : List α} (hl : a ∉ l) (rest : List α) :
    split a b (l ++ a :: b :: rest) = l :: split a b rest := by
  induction l with
  | nil => simp [split]
  | cons c l ih =>
    obtain ⟨hc, hl⟩ := not_or.mp (mt List.mem_cons.mpr hl)
    obtain ⟨d, more, hmore⟩ := List.exists_cons_of_ne_nil (l := l ++ a :: b :: rest) (by simp)
    rw [List.cons_append, hmore, split, if_neg fun h => hc h.1.symm, ← hmore, ih hl, consHead]

theorem split_of_notMem {l : List α} (hl : a ∉ l) : split a b l = [l] := by
  induction l with
  | nil => rfl
  | cons c l ih =>
    obtain ⟨hc, hl⟩ := not_or.mp (mt List.mem_cons.mpr hl)
    cases l with
    | nil => rfl
    | cons d l => rw [split, if_neg fun h => hc h.1.symm, ih hl, consHead]

/-- Lines without the first element of the delimiter are found again. -/
theorem split_intercalate {lines : List (List α)} (hne : lines ≠ [])
    (h : ∀ line ∈ lines, a ∉ line) : split a b ([a, b].intercalate lines) = lines := by
  induction lines with
  | nil => exact absurd rfl hne
  | cons line lines ih =>
    have hline := h line List.mem_cons_self
    cases lines with
    | nil => simpa [List.intercalate] using split_of_notMem hline
    | cons line' lines =>
      have hrest := ih (by simp) fun l hl => h l (List.mem_cons_of_mem _ hl)
      rw [intercalate_cons_cons, List.append_assoc, List.cons_append, List.cons_append,
        List.nil_append, split_append_of_notMem hline, hrest]

/-- No double delimiter starts at a delimiter before some other element. -/
theorem find_past_delimiter (hab : a ≠ b) {c : α} (hc : a ≠ c) (rest : List α) :
    find [a, b, a, b] (a :: b :: c :: rest) =
      (find [a, b, a, b] (c :: rest)).map (2 + ·) := by
  rw [find, if_neg, find_cons_of_ne hab, Option.map_map]
  · refine Option.map_congr fun i _ => ?_
    simp only [Function.comp_apply]
    omega
  · rw [List.isPrefixOf_iff_prefix, List.cons_prefix_cons, List.cons_prefix_cons,
      List.cons_prefix_cons]
    exact fun h => hc h.2.2.1

omit [DecidableEq α] in
/-- Lines start with the first element of the first line. -/
theorem head_of_lines {line : List α} (h : line ≠ [] ∧ a ∉ line) (lines : List (List α)) :
    ∃ c more, [a, b].intercalate (line :: lines) = c :: more ∧ a ≠ c := by
  obtain ⟨c, l, rfl⟩ := List.exists_cons_of_ne_nil h.1
  have hc : a ≠ c := fun hac => h.2 (hac ▸ List.mem_cons_self)
  cases lines with
  | nil => exact ⟨c, l, by simp [List.intercalate], hc⟩
  | cons line' lines => exact ⟨c, _, intercalate_cons_cons _ _ _ _, hc⟩

/-- The first double delimiter after lines that are not empty is the end of the lines. -/
theorem find_double (hab : a ≠ b) {lines : List (List α)} (hne : lines ≠ [])
    (h : ∀ line ∈ lines, line ≠ [] ∧ a ∉ line) (rest : List α) :
    find [a, b, a, b] ([a, b].intercalate lines ++ ([a, b, a, b] ++ rest)) =
      some ([a, b].intercalate lines).length := by
  induction lines with
  | nil => exact absurd rfl hne
  | cons line lines ih =>
    have hline := (h line List.mem_cons_self).2
    cases lines with
    | nil =>
      have hsingle : [a, b].intercalate [line] = line := by simp [List.intercalate]
      rw [hsingle, find_append hline, find_of_prefix]
      simp
    | cons line' lines =>
      have hrest := ih (by simp) fun l hl => h l (List.mem_cons_of_mem _ hl)
      obtain ⟨c, more, hmore, hc⟩ := head_of_lines (b := b) (h line' (by simp)) lines
      have hlength : ([a, b].intercalate (line :: line' :: lines)).length =
          line.length + (2 + ([a, b].intercalate (line' :: lines)).length) := by
        rw [intercalate_cons_cons]
        simp only [List.length_append, List.length_cons, List.length_nil]
        omega
      rw [hlength, intercalate_cons_cons, List.append_assoc, List.append_assoc, find_append hline,
        hmore, List.cons_append, List.cons_append, List.cons_append, List.nil_append,
        find_past_delimiter hab hc, ← List.cons_append, ← hmore, hrest]
      rfl

end Delimiters
