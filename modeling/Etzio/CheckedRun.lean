import Mathlib

/-!
# Checked runs

A checked step either returns the next state or stops with an error, and a checked
run folds such a step over a list of inputs. `refuseIf` and `orRefuse` are the two
shapes of check a step is made of : a condition that stops it, and a lookup that
stops it when nothing is found. `unit_bind_eq_ok` and `orRefuse_bind_eq_ok` peel a
successful step into the conditions it passed.

`foldlM_invariant` is the induction over a run : a predicate of the inputs so far
and the state, kept by every successful step, holds at the end of every successful
run. `foldlM_append_eq_ok` cuts a successful run at any point.

`FailsWith` bounds the errors of a computation, step by step.
-/

namespace CheckedRun

variable {ε α β σ : Type}

/-! ## Checks -/

/-- Stop with `e` when `p` holds. -/
def refuseIf (p : Prop) [Decidable p] (e : ε) : Except ε Unit :=
  if p then .error e else .ok ()

/-- The value of `o`, or stop with `e`. -/
def orRefuse (o : Option α) (e : ε) : Except ε α :=
  match o with
  | some a => .ok a
  | none => .error e

/-- A proof that `p` holds, or stop with `e`. -/
def requireThat (p : Prop) [Decidable p] (e : ε) : Except ε { _u : Unit // p } :=
  if h : p then .ok ⟨(), h⟩ else .error e

/-- A successful bind is a success followed by a success. -/
theorem bind_eq_ok {x : Except ε α} {f : α → Except ε β} {b : β} :
    (x >>= f) = .ok b ↔ ∃ a, x = .ok a ∧ f a = .ok b := by
  cases x with
  | error e => simp [bind, Except.bind]
  | ok a => simp [bind, Except.bind]

/-- A check followed by the rest succeeds exactly when both do. -/
@[simp] theorem unit_bind_eq_ok {x : Except ε Unit} {f : Unit → Except ε β} {b : β} :
    (x >>= f) = .ok b ↔ x = .ok () ∧ f () = .ok b := by
  rw [bind_eq_ok]
  constructor
  · rintro ⟨u, hu, hf⟩
    exact ⟨hu, hf⟩
  · rintro ⟨hx, hf⟩
    exact ⟨(), hx, hf⟩

@[simp] theorem refuseIf_eq_ok {p : Prop} [Decidable p] {e : ε} {u : Unit} :
    refuseIf p e = .ok u ↔ ¬p := by
  unfold refuseIf
  split_ifs with h <;> simp [h]

@[simp] theorem orRefuse_eq_ok {o : Option α} {e : ε} {a : α} :
    orRefuse o e = .ok a ↔ o = some a := by
  cases o <;> simp [orRefuse]

@[simp] theorem orRefuse_bind_eq_ok {o : Option α} {e : ε} {f : α → Except ε β} {b : β} :
    (orRefuse o e >>= f) = .ok b ↔ ∃ a, o = some a ∧ f a = .ok b := by
  simp only [bind_eq_ok, orRefuse_eq_ok]

/-- A value that was found is handed to the rest. -/
theorem orRefuse_some_bind (a : α) (e : ε) (f : α → Except ε β) :
    (orRefuse (some a) e >>= f) = f a := rfl

/-- Renaming the error of a computation does not change when it succeeds. -/
@[simp] theorem mapError_eq_ok {ε' : Type} {x : Except ε α} {g : ε → ε'} {a : α} :
    x.mapError g = .ok a ↔ x = .ok a := by
  cases x <;> simp [Except.mapError]

/-- A success hands its value to the rest. -/
theorem bind_of_ok {x : Except ε α} {f : α → Except ε β} {a : α} (h : x = .ok a) :
    (x >>= f) = f a := by
  rw [h]
  rfl

/-- An error skips the rest. -/
theorem bind_of_error {x : Except ε α} {f : α → Except ε β} {e : ε} (h : x = .error e) :
    (x >>= f) = .error e := by
  rw [h]
  rfl

theorem refuseIf_bind_of_not {p : Prop} [Decidable p] {e : ε} {f : Unit → Except ε β} (h : ¬p) :
    (refuseIf p e >>= f) = f () :=
  bind_of_ok (refuseIf_eq_ok.mpr h)

theorem refuseIf_bind_of {p : Prop} [Decidable p] {e : ε} {f : Unit → Except ε β} (h : p) :
    (refuseIf p e >>= f) = .error e :=
  bind_of_error (if_pos h)

theorem requireThat_bind {p : Prop} [Decidable p] (h : p) (e : ε)
    (f : { _u : Unit // p } → Except ε β) : (requireThat p e >>= f) = f ⟨(), h⟩ := by
  rw [requireThat, dif_pos h]
  rfl

/-! ## Runs -/

/-- A run over `l₁ ++ l₂` is a run over `l₁` followed by a run over `l₂`. -/
theorem foldlM_append_eq_ok {f : σ → α → Except ε σ} {s t : σ} {l₁ l₂ : List α} :
    (l₁ ++ l₂).foldlM f s = .ok t ↔
      ∃ m, l₁.foldlM f s = .ok m ∧ l₂.foldlM f m = .ok t := by
  rw [List.foldlM_append, bind_eq_ok]

theorem foldlM_cons_eq_ok {f : σ → α → Except ε σ} {s t : σ} {a : α} {l : List α} :
    (a :: l).foldlM f s = .ok t ↔ ∃ m, f s a = .ok m ∧ l.foldlM f m = .ok t := by
  rw [List.foldlM_cons, bind_eq_ok]

theorem foldlM_singleton_eq_ok {f : σ → α → Except ε σ} {s t : σ} {a : α} :
    [a].foldlM f s = .ok t ↔ f s a = .ok t := by
  rw [foldlM_cons_eq_ok]
  constructor
  · rintro ⟨m, hm, ht⟩
    obtain rfl : m = t := by simpa [pure, Except.pure] using ht
    exact hm
  · exact fun h => ⟨t, h, rfl⟩

/-- Steps that agree on the inputs of a run give the same run. -/
theorem foldlM_congr {f g : σ → α → Except ε σ} {l : List α}
    (h : ∀ a ∈ l, ∀ s, f s a = g s a) (s : σ) : l.foldlM f s = l.foldlM g s := by
  induction l generalizing s with
  | nil => rfl
  | cons a l ih =>
    rw [List.foldlM_cons, List.foldlM_cons, h a List.mem_cons_self]
    exact congrArg _ (funext fun s' => ih (fun b hb => h b (List.mem_cons_of_mem a hb)) s')

/-- Checks made one after another all succeed exactly when each does. -/
theorem forM_eq_ok {f : α → Except ε Unit} {l : List α} {u : Unit} :
    l.forM f = .ok u ↔ ∀ a ∈ l, f a = .ok () := by
  induction l with
  | nil => simp [pure, Except.pure]
  | cons a l ih =>
    change (f a >>= fun _ => l.forM f) = .ok u ↔ _
    rw [unit_bind_eq_ok, ih, List.forall_mem_cons]

/-- The results of a run over a list are the results of its elements, in order. -/
theorem mapM_eq_ok {f : α → Except ε β} {l : List α} {m : List β} :
    l.mapM f = .ok m ↔ List.Forall₂ (fun a b => f a = .ok b) l m := by
  induction l generalizing m with
  | nil =>
    rw [List.mapM_nil, List.forall₂_nil_left_iff]
    exact ⟨fun h => (Except.ok.inj h).symm, fun h => h ▸ rfl⟩
  | cons a l ih =>
    rw [List.mapM_cons, bind_eq_ok, List.forall₂_cons_left_iff]
    constructor
    · rintro ⟨b, hb, hrest⟩
      obtain ⟨bs, hbs, hreturn⟩ := bind_eq_ok.mp hrest
      exact ⟨b, bs, hb, ih.mp hbs, (Except.ok.inj hreturn).symm⟩
    · rintro ⟨b, bs, hb, hbs, rfl⟩
      exact ⟨b, hb, bind_eq_ok.mpr ⟨bs, ih.mpr hbs, rfl⟩⟩

/-- An element of one list has its partner in the other. -/
theorem exists_related_of_mem {R : α → β → Prop} {l : List α} {m : List β} {a : α}
    (h : List.Forall₂ R l m) (ha : a ∈ l) : ∃ b ∈ m, R a b := by
  induction h with
  | nil => exact absurd ha List.not_mem_nil
  | cons hab _ ih =>
    rcases List.mem_cons.mp ha with rfl | ha
    · exact ⟨_, List.mem_cons_self, hab⟩
    · obtain ⟨b, hb, h⟩ := ih ha
      exact ⟨b, List.mem_cons_of_mem _ hb, h⟩

/-- Related lists compose. -/
theorem forall₂_comp {γ : Type} {R : α → β → Prop} {S : β → γ → Prop} {T : α → γ → Prop}
    {l : List α} {m : List β} {n : List γ} (h : List.Forall₂ R l m) (h' : List.Forall₂ S m n)
    (hT : ∀ a b c, b ∈ m → R a b → S b c → T a c) : List.Forall₂ T l n := by
  induction h generalizing n with
  | nil =>
    cases h'
    exact .nil
  | cons hab _ ih =>
    cases h' with
    | cons hbc hrest =>
      exact .cons (hT _ _ _ List.mem_cons_self hab hbc)
        (ih hrest fun a b c hb => hT a b c (List.mem_cons_of_mem _ hb))

/-- A function that succeeds on every element of a list gives a list of results. -/
theorem exists_map_ok {f : α → Except ε β} {l : List α} (h : ∀ a ∈ l, ∃ b, f a = .ok b) :
    ∃ m : List β, l.map f = m.map .ok := by
  induction l with
  | nil => exact ⟨[], rfl⟩
  | cons a l ih =>
    obtain ⟨b, hb⟩ := h a List.mem_cons_self
    obtain ⟨m, hm⟩ := ih fun x hx => h x (List.mem_cons_of_mem a hx)
    exact ⟨b :: m, by rw [List.map_cons, hb, hm, List.map_cons]⟩

/-- A predicate of the inputs so far and the state that every successful step keeps
holds at the end of every successful run. -/
theorem foldlM_invariant {f : σ → α → Except ε σ} {s₀ : σ} (I : List α → σ → Prop)
    (start : I [] s₀)
    (step : ∀ h s a s', h.foldlM f s₀ = .ok s → I h s → f s a = .ok s' → I (h ++ [a]) s')
    {l : List α} {s : σ} (run : l.foldlM f s₀ = .ok s) : I l s := by
  induction l using List.reverseRecOn generalizing s with
  | nil =>
    obtain rfl : s₀ = s := by simpa [pure, Except.pure] using run
    exact start
  | append_singleton h a ih =>
    obtain ⟨m, hm, ha⟩ := foldlM_append_eq_ok.mp run
    exact step h m a s hm (ih hm) (foldlM_singleton_eq_ok.mp ha)

/-- A run whose every step succeeds under a predicate it keeps succeeds, and ends with the
predicate. -/
theorem foldlM_progress {f : σ → α → Except ε σ} (I : List α → σ → Prop) {l : List α} {s₀ : σ}
    (start : I [] s₀)
    (step : ∀ h s a, a ∈ l → I h s → ∃ s', f s a = .ok s' ∧ I (h ++ [a]) s') :
    ∃ s, l.foldlM f s₀ = .ok s ∧ I l s := by
  induction l using List.reverseRecOn with
  | nil => exact ⟨s₀, rfl, start⟩
  | append_singleton h a ih =>
    obtain ⟨m, hm, him⟩ := ih fun h' s b hb => step h' s b (List.mem_append_left _ hb)
    obtain ⟨s, hs, his⟩ := step h m a (List.mem_append_right _ (List.mem_singleton_self a)) him
    exact ⟨s, foldlM_append_eq_ok.mpr ⟨m, hm, foldlM_singleton_eq_ok.mpr hs⟩, his⟩

/-- A function that succeeds on every element of a list succeeds on the list. -/
theorem mapM_progress {f : α → Except ε β} {P : α → β → Prop} {l : List α}
    (h : ∀ a ∈ l, ∃ b, f a = .ok b ∧ P a b) : ∃ m, l.mapM f = .ok m ∧ List.Forall₂ P l m := by
  induction l with
  | nil => exact ⟨[], rfl, .nil⟩
  | cons a l ih =>
    obtain ⟨b, hb, hab⟩ := h a List.mem_cons_self
    obtain ⟨m, hm, hlm⟩ := ih fun x hx => h x (List.mem_cons_of_mem a hx)
    exact ⟨b :: m, mapM_eq_ok.mpr (.cons hb (mapM_eq_ok.mp hm)), .cons hab hlm⟩

/-- Every prefix of a successful run is a successful run. -/
theorem foldlM_prefix_ok {f : σ → α → Except ε σ} {s t : σ} {l₁ l : List α}
    (hpre : l₁ <+: l) (run : l.foldlM f s = .ok t) : ∃ m, l₁.foldlM f s = .ok m := by
  obtain ⟨l₂, rfl⟩ := hpre
  obtain ⟨m, hm, -⟩ := foldlM_append_eq_ok.mp run
  exact ⟨m, hm⟩

/-- The states around one input of a successful run. -/
theorem foldlM_split {f : σ → α → Except ε σ} {s t : σ} {pre post : List α} {a : α}
    (run : (pre ++ a :: post).foldlM f s = .ok t) :
    ∃ m m', pre.foldlM f s = .ok m ∧ f m a = .ok m' ∧ post.foldlM f m' = .ok t := by
  obtain ⟨m, hm, h⟩ := foldlM_append_eq_ok.mp run
  obtain ⟨m', ha, hpost⟩ := foldlM_cons_eq_ok.mp h
  exact ⟨m, m', hm, ha, hpost⟩

/-! ## Errors -/

/-- Every error of a computation satisfies `Q`. -/
def FailsWith (Q : ε → Prop) (x : Except ε α) : Prop := ∀ e, x = .error e → Q e

variable {Q : ε → Prop}

theorem FailsWith.ok {a : α} : FailsWith Q (.ok a : Except ε α) := fun _ h => by cases h

theorem FailsWith.error {e : ε} (h : Q e) : FailsWith Q (.error e : Except ε α) := by
  intro e' he
  rw [← Except.error.inj he]
  exact h

theorem FailsWith.bind {x : Except ε α} {f : α → Except ε β} (hx : FailsWith Q x)
    (hf : ∀ a, x = .ok a → FailsWith Q (f a)) : FailsWith Q (x >>= f) := by
  cases hxe : x with
  | error e => exact .error (hx e hxe)
  | ok a => exact hf a hxe

theorem FailsWith.refuseIf {p : Prop} [Decidable p] {e : ε} (h : Q e) :
    FailsWith Q (refuseIf p e) := by
  unfold CheckedRun.refuseIf
  split_ifs
  · exact .error h
  · exact .ok

theorem FailsWith.orRefuse {o : Option α} {e : ε} (h : Q e) : FailsWith Q (orRefuse o e) := by
  cases o with
  | none => exact .error h
  | some a => exact .ok

theorem FailsWith.mapError {ε' : Type} {x : Except ε' α} {g : ε' → ε} (h : ∀ y, Q (g y)) :
    FailsWith Q (x.mapError g) := by
  cases x with
  | error y => exact .error (h y)
  | ok a => exact .ok

theorem FailsWith.forM {f : α → Except ε Unit} {l : List α} (h : ∀ a ∈ l, FailsWith Q (f a)) :
    FailsWith Q (l.forM f) := by
  induction l with
  | nil => exact .ok
  | cons a l ih =>
    exact .bind (h a List.mem_cons_self) fun _ _ => ih fun b hb => h b (List.mem_cons_of_mem a hb)

theorem FailsWith.foldlM {f : σ → α → Except ε σ} {l : List α} {s : σ}
    (h : ∀ s a, FailsWith Q (f s a)) : FailsWith Q (l.foldlM f s) := by
  induction l generalizing s with
  | nil => exact .ok
  | cons a l ih =>
    rw [List.foldlM_cons]
    exact .bind (h s a) fun s' _ => ih

theorem FailsWith.mapM {f : α → Except ε β} {l : List α}
    (h : ∀ a ∈ l, FailsWith Q (f a)) : FailsWith Q (l.mapM f) := by
  induction l with
  | nil => exact .ok
  | cons a l ih =>
    rw [List.mapM_cons]
    exact .bind (h a List.mem_cons_self) fun _ _ =>
      .bind (ih fun b hb => h b (List.mem_cons_of_mem a hb)) fun _ _ => .ok

/-- Errors that are renamed. -/
theorem FailsWith.renamed {ε' : Type} {Q' : ε' → Prop} {x : Except ε α}
    {g : ε → ε'} (h : FailsWith Q x) (hg : ∀ e, Q e → Q' (g e)) : FailsWith Q' (x.mapError g) := by
  cases hx : x with
  | error e => exact .error (hg e (h e hx))
  | ok a => exact .ok

end CheckedRun
