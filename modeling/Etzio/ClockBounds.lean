import Mathlib

/-!
# Clock bounds

A counter with a bounded rate error and a bounded reading error tells how much time has passed,
up to an interval (`Reads.elapsed_le`, `Reads.le_elapsed`). An event that an interval contains
and a later one : the interval moved by the bounds on the time between them contains the later
one (`later_mem_Icc`). Division rounded outward keeps a bound (`fdiv_le_div`,
`div_le_neg_fdiv_neg`).
-/

namespace ClockBounds

variable {K : Type*} [Field K] [LinearOrder K] [IsStrictOrderedRing K]

/-! ## Counters -/

/-- A counter difference `d` over a true time `x`, with rate error `ρ` and reading error `ε`. -/
structure Reads (ρ ε x d : K) : Prop where
  slow : (1 - ρ) * x - ε ≤ d
  fast : d ≤ (1 + ρ) * x + ε

section Reads

variable {ρ ε x d : K}

/-- The longest time that a counter difference leaves open. -/
theorem Reads.elapsed_le (h : Reads ρ ε x d) (hρ : ρ < 1) : x ≤ (d + ε) / (1 - ρ) := by
  have hpos : 0 < 1 - ρ := sub_pos.mpr hρ
  rw [le_div_iff₀ hpos]
  have := h.slow
  linarith [mul_comm x (1 - ρ)]

/-- The shortest time that a counter difference leaves open, when time does not run back. -/
theorem Reads.le_elapsed (h : Reads ρ ε x d) (hρ : 0 ≤ ρ) (hx : 0 ≤ x) :
    max 0 (d - ε) / (1 + ρ) ≤ x := by
  have hpos : 0 < 1 + ρ := by linarith
  rw [div_le_iff₀ hpos, max_le_iff]
  refine ⟨by positivity, ?_⟩
  have := h.fast
  linarith [mul_comm x (1 + ρ)]

end Reads

/-! ## Intervals -/

/-- The interval of an event `T`, moved by a lower bound on the time from a later event `r` to
`t` and an upper bound on the time from `T` to `t`, contains `t`. -/
theorem later_mem_Icc {a b T r t l u : K} (hT : T ∈ Set.Icc a b) (hr : T ≤ r) (hl : l ≤ t - r)
    (hu : t - T ≤ u) : t ∈ Set.Icc (a + l) (b + u) := by
  have := hT.1
  have := hT.2
  exact ⟨by linarith, by linarith⟩

/-! ## Rounding outward -/

/-- Floor division rounds down. -/
theorem fdiv_le_div (n : ℤ) {d : ℤ} (hd : 0 < d) : ((n.fdiv d : ℤ) : K) ≤ n / d := by
  rw [le_div_iff₀ (Int.cast_pos.mpr hd), ← Int.cast_mul, Int.cast_le,
    Int.fdiv_eq_ediv_of_nonneg n hd.le]
  exact Int.ediv_mul_le n hd.ne'

/-- Floor division between two negations rounds up. -/
theorem div_le_neg_fdiv_neg (n : ℤ) {d : ℤ} (hd : 0 < d) :
    (n / d : K) ≤ ((-((-n).fdiv d) : ℤ) : K) := by
  have h := fdiv_le_div (K := K) (-n) hd
  rw [Int.cast_neg, neg_div] at h
  rw [Int.cast_neg]
  linarith

end ClockBounds
