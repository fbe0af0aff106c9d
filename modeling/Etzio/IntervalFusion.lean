import Mathlib

/-!
# Interval fusion

Closed intervals of several sources that speak of one instant. Their hull is the smallest interval
that contains them all (`hull?_eq_some`), and they share an instant exactly when no lower end is
above an upper end (`exists_common_iff`). A shared instant lies in the hull.
-/

namespace IntervalFusion

variable {α : Type*} [LinearOrder α]

local instance lawfulOrderMin : Std.LawfulOrderMin α where
  min_eq_or := min_choice
  le_min_iff _ _ _ := le_min_iff

local instance lawfulOrderMax : Std.LawfulOrderMax α where
  max_eq_or := max_choice
  max_le_iff _ _ _ := max_le_iff

/-- The smallest lower end and the largest upper end. -/
def hull? (intervals : List (α × α)) : Option (α × α) := do
  let lower ← (intervals.map Prod.fst).min?
  let upper ← (intervals.map Prod.snd).max?
  return (lower, upper)

/-- The largest lower end and the smallest upper end. -/
def overlap? (intervals : List (α × α)) : Option (α × α) := do
  let lower ← (intervals.map Prod.fst).max?
  let upper ← (intervals.map Prod.snd).min?
  return (lower, upper)

/-- An interval is the hull of some : its ends are ends of theirs, and it contains them. -/
structure IsHull (intervals : List (α × α)) (hull : α × α) : Prop where
  lower_mem : ∃ i ∈ intervals, i.1 = hull.1
  upper_mem : ∃ i ∈ intervals, i.2 = hull.2
  contains : ∀ i ∈ intervals, hull.1 ≤ i.1 ∧ i.2 ≤ hull.2

/-- An instant that every interval contains. -/
def Common (intervals : List (α × α)) (t : α) : Prop :=
  ∀ i ∈ intervals, t ∈ Set.Icc i.1 i.2

theorem hull?_eq_some {intervals : List (α × α)} {hull : α × α}
    (h : hull? intervals = some hull) : IsHull intervals hull := by
  obtain ⟨lower, hlower, upper, hupper, hreturn⟩ : ∃ lower,
      (intervals.map Prod.fst).min? = some lower ∧ ∃ upper,
      (intervals.map Prod.snd).max? = some upper ∧ (lower, upper) = hull := by
    simpa [hull?, Option.bind_eq_some_iff] using h
  obtain rfl := hreturn
  obtain ⟨hmin, hle⟩ := List.min?_eq_some_iff.mp hlower
  obtain ⟨hmax, hge⟩ := List.max?_eq_some_iff.mp hupper
  refine ⟨List.mem_map.mp hmin, List.mem_map.mp hmax, fun i hi => ⟨?_, ?_⟩⟩
  · exact hle _ (List.mem_map_of_mem hi)
  · exact hge _ (List.mem_map_of_mem hi)

/-- Intervals share an instant when no lower end is above an upper end. -/
theorem exists_common_iff {intervals : List (α × α)} {overlap : α × α}
    (h : overlap? intervals = some overlap) :
    (∃ t, Common intervals t) ↔ overlap.1 ≤ overlap.2 := by
  obtain ⟨lower, hlower, upper, hupper, hreturn⟩ : ∃ lower,
      (intervals.map Prod.fst).max? = some lower ∧ ∃ upper,
      (intervals.map Prod.snd).min? = some upper ∧ (lower, upper) = overlap := by
    simpa [overlap?, Option.bind_eq_some_iff] using h
  obtain rfl := hreturn
  obtain ⟨hmax, hge⟩ := List.max?_eq_some_iff.mp hlower
  obtain ⟨hmin, hle⟩ := List.min?_eq_some_iff.mp hupper
  constructor
  · rintro ⟨t, ht⟩
    obtain ⟨i, hi, rfl⟩ := List.mem_map.mp hmax
    obtain ⟨j, hj, rfl⟩ := List.mem_map.mp hmin
    exact (ht i hi).1.trans (ht j hj).2
  · intro hoverlap
    exact ⟨lower, fun i hi => ⟨hge _ (List.mem_map_of_mem hi),
      hoverlap.trans (hle _ (List.mem_map_of_mem hi))⟩⟩

/-- A shared instant lies in the hull. -/
theorem Common.mem_hull {intervals : List (α × α)} {hull : α × α} {t : α}
    (ht : Common intervals t) (hhull : IsHull intervals hull) : t ∈ Set.Icc hull.1 hull.2 := by
  obtain ⟨i, hi, hlower⟩ := hhull.lower_mem
  obtain ⟨j, hj, hupper⟩ := hhull.upper_mem
  exact ⟨hlower ▸ (ht i hi).1, hupper ▸ (ht j hj).2⟩

end IntervalFusion
