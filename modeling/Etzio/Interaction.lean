import Mathlib

/-!
# Programs that call

A program makes calls to its surroundings and goes on with their replies ; it ends with
a value or an error. What a call may reply and do to the surroundings is a relation, so
one program runs against a faithful service, an arbitrary one or a service interleaved
with others.

`Ends` is a run to the end, `Visits` a run that stops anywhere, as in a crash, and
`Traced` such a run with the states before and after each of its calls. `ends_bind` and
`ends_handle`, and `visits_bind` and `visits_handle`, take a run of a composed program apart.
`Prog.Calls` bounds the calls a program can make, whatever is replied to it ;
`Visits.invariant` is then the induction over a run, for what these calls keep.

A pool runs programs as threads of one service, one call at a time in any order.
`Guarantees` is what a thread keeps true at each of its calls, whatever the others do between
them as long as they do no more than it relies on. `Pool.Run.guarantees` puts threads with
matching rely and guarantee together.
-/

namespace Interaction

variable {S : Type*} {C : Type → Type 1} {ε α β : Type}

/-! ## Programs -/

/-- A program with calls `C` : it ends with a result, or it makes a call and goes on with
the reply. -/
inductive Prog (C : Type → Type 1) (ε α : Type) : Type 1
  | done (r : Except ε α)
  | call {σ : Type} (c : C σ) (next : σ → Prog C ε α)

/-- `p`, then `f` with its value. -/
def Prog.bind : Prog C ε α → (α → Prog C ε β) → Prog C ε β
  | .done (.ok a), f => f a
  | .done (.error e), _ => .done (.error e)
  | .call c next, f => .call c fun y => (next y).bind f

instance : Monad (Prog C ε) where
  pure a := .done (.ok a)
  bind := Prog.bind

@[simp]
theorem Prog.ok_bind (a : α) (f : α → Prog C ε β) :
    ((.done (.ok a) : Prog C ε α) >>= f) = f a := rfl

/-- Stop with an error. -/
def Prog.raise (e : ε) : Prog C ε α := .done (.error e)

/-- `p`, with `h` for its errors. -/
def Prog.handle : Prog C ε α → (ε → Prog C ε α) → Prog C ε α
  | .done (.ok a), _ => .done (.ok a)
  | .done (.error e), h => h e
  | .call c next, h => .call c fun y => (next y).handle h

/-- Every call the program can make satisfies `P`, whatever is replied. -/
def Prog.Calls (P : (σ : Type) → C σ → Prop) : Prog C ε α → Prop
  | .done _ => True
  | .call c next => P _ c ∧ ∀ y, (next y).Calls P

/-! ## Runs -/

section Runs

variable (H : (σ : Type) → S → C σ → σ → S → Prop)

/-- A run of a program to its end. -/
inductive Ends : S → Prog C ε α → Except ε α → S → Prop
  | done {s r} : Ends s (.done r) r s
  | call {σ : Type} {s s₁ s₂ : S} {c : C σ} {y : σ} {next r} (h : H σ s c y s₁)
      (hn : Ends s₁ (next y) r s₂) : Ends s (.call c next) r s₂

/-- The states a run of a program goes through. -/
inductive Visits : S → Prog C ε α → S → Prop
  | here {s p} : Visits s p s
  | call {σ : Type} {s s₁ s₂ : S} {c : C σ} {y : σ} {next} (h : H σ s c y s₁)
      (hn : Visits s₁ (next y) s₂) : Visits s (.call c next) s₂

/-- A run of a program that stops anywhere, with the states before and after each of its
calls, in order. -/
inductive Traced : S → Prog C ε α → List (S × S) → S → Prop
  | here {s p} : Traced s p [] s
  | call {σ : Type} {s s₁ s₂ : S} {c : C σ} {y : σ} {next trace} (h : H σ s c y s₁)
      (hn : Traced s₁ (next y) trace s₂) : Traced s (.call c next) ((s, s₁) :: trace) s₂

end Runs

variable {H : (σ : Type) → S → C σ → σ → S → Prop} {s s' : S} {p : Prog C ε α}

theorem Ends.visits {r : Except ε α} (h : Ends H s p r s') : Visits H s p s' := by
  induction h with
  | done => exact .here
  | call h _ ih => exact .call h ih

theorem Traced.visits {trace : List (S × S)} (h : Traced H s p trace s') : Visits H s p s' := by
  induction h with
  | here => exact .here
  | call h _ ih => exact .call h ih

/-- The calls of every run that stops somewhere can be written down. -/
theorem Visits.traced (h : Visits H s p s') : ∃ trace, Traced H s p trace s' := by
  induction h with
  | here => exact ⟨[], .here⟩
  | call h _ ih =>
    obtain ⟨trace, ih⟩ := ih
    exact ⟨_, .call h ih⟩

/-- A run is one of every service that may do what the calls of the run did. -/
theorem Ends.mono {H' : (σ : Type) → S → C σ → σ → S → Prop} {r : Except ε α}
    (h : Ends H s p r s')
    (hH : ∀ {σ : Type} {a b : S} {c : C σ} {y : σ}, H σ a c y b → H' σ a c y b) :
    Ends H' s p r s' := by
  induction h with
  | done => exact .done
  | call hc _ ih => exact .call (hH hc) ih

/-! ## Taking a run apart -/

section Inversion

variable {r : Except ε α} {q : Except ε β}

@[simp]
theorem ends_done {r' : Except ε α} : Ends H s (.done r') r s' ↔ r = r' ∧ s' = s := by
  constructor
  · rintro ⟨⟩
    exact ⟨rfl, rfl⟩
  · rintro ⟨rfl, rfl⟩
    exact .done

@[simp]
theorem ends_pure {a : α} : Ends H s (pure a : Prog C ε α) r s' ↔ r = .ok a ∧ s' = s := ends_done

@[simp]
theorem ends_raise {e : ε} : Ends H s (Prog.raise e : Prog C ε α) r s' ↔ r = .error e ∧ s' = s :=
  ends_done

theorem ends_call {σ : Type} {c : C σ} {next : σ → Prog C ε α} :
    Ends H s (.call c next) r s' ↔ ∃ y s₁, H σ s c y s₁ ∧ Ends H s₁ (next y) r s' := by
  constructor
  · rintro ⟨⟩
    exact ⟨_, _, ‹_›, ‹_›⟩
  · rintro ⟨y, s₁, h, hn⟩
    exact .call h hn

/-- A run of `p >>= f` is a run of `p` that fails, or one that gives `f` its value. -/
theorem ends_bind {f : α → Prog C ε β} : Ends H s (p >>= f) q s' ↔
    (∃ a s₁, Ends H s p (.ok a) s₁ ∧ Ends H s₁ (f a) q s') ∨
      ∃ e, q = .error e ∧ Ends H s p (.error e) s' := by
  change Ends H s (p.bind f) q s' ↔ _
  induction p generalizing s with
  | done r =>
    cases r with
    | ok a => simp [Prog.bind]
    | error e => simp [Prog.bind]
  | call c next ih =>
    simp only [Prog.bind, ends_call, ih]
    constructor
    · rintro ⟨y, s₁, h, ⟨a, s₂, hp, hf⟩ | ⟨e, rfl, hp⟩⟩
      · exact .inl ⟨a, s₂, ⟨y, s₁, h, hp⟩, hf⟩
      · exact .inr ⟨e, rfl, y, s₁, h, hp⟩
    · rintro (⟨a, s₂, ⟨y, s₁, h, hp⟩, hf⟩ | ⟨e, rfl, y, s₁, h, hp⟩)
      · exact ⟨y, s₁, h, .inl ⟨a, s₂, hp, hf⟩⟩
      · exact ⟨y, s₁, h, .inr ⟨e, rfl, hp⟩⟩

theorem ends_bind_ok {f : α → Prog C ε β} {b : β} : Ends H s (p >>= f) (.ok b) s' ↔
    ∃ a s₁, Ends H s p (.ok a) s₁ ∧ Ends H s₁ (f a) (.ok b) s' := by
  rw [ends_bind]
  simp

/-- A run of a handled program is a run that succeeds, or one whose error is handled. -/
theorem ends_handle {f : ε → Prog C ε α} : Ends H s (p.handle f) r s' ↔
    (∃ a, r = .ok a ∧ Ends H s p (.ok a) s') ∨
      ∃ e s₁, Ends H s p (.error e) s₁ ∧ Ends H s₁ (f e) r s' := by
  induction p generalizing s with
  | done r =>
    cases r with
    | ok a => simp [Prog.handle]
    | error e => simp [Prog.handle]
  | call c next ih =>
    simp only [Prog.handle, ends_call, ih]
    constructor
    · rintro ⟨y, s₁, h, ⟨a, rfl, hp⟩ | ⟨e, s₂, hp, hf⟩⟩
      · exact .inl ⟨a, rfl, y, s₁, h, hp⟩
      · exact .inr ⟨e, s₂, ⟨y, s₁, h, hp⟩, hf⟩
    · rintro (⟨a, rfl, y, s₁, h, hp⟩ | ⟨e, s₂, ⟨y, s₁, h, hp⟩, hf⟩)
      · exact ⟨y, s₁, h, .inl ⟨a, rfl, hp⟩⟩
      · exact ⟨y, s₁, h, .inr ⟨e, s₂, hp, hf⟩⟩

/-- A handler that raises changes no success. -/
theorem ends_handle_raise_ok {g : ε → ε} {a : α} :
    Ends H s (p.handle fun e => .raise (g e)) (.ok a) s' ↔ Ends H s p (.ok a) s' := by
  rw [ends_handle]
  simp

theorem visits_done {r' : Except ε α} : Visits H s (.done r') s' ↔ s' = s := by
  constructor
  · rintro ⟨⟩
    rfl
  · rintro rfl
    exact .here

theorem visits_bind {f : α → Prog C ε β} (h : Visits H s (p >>= f) s') :
    Visits H s p s' ∨ ∃ a s₁, Ends H s p (.ok a) s₁ ∧ Visits H s₁ (f a) s' := by
  change Visits H s (p.bind f) s' at h
  induction p generalizing s with
  | done r =>
    cases r with
    | ok a => exact .inr ⟨a, s, .done, h⟩
    | error e =>
      obtain rfl := visits_done.mp h
      exact .inl .here
  | call c next ih =>
    cases h with
    | here => exact .inl .here
    | call hc hn =>
      rcases ih _ hn with h | ⟨a, s₁, hp, hf⟩
      · exact .inl (.call hc h)
      · exact .inr ⟨a, s₁, .call hc hp, hf⟩

theorem visits_handle {f : ε → Prog C ε α} (h : Visits H s (p.handle f) s') :
    Visits H s p s' ∨ ∃ e s₁, Ends H s p (.error e) s₁ ∧ Visits H s₁ (f e) s' := by
  induction p generalizing s with
  | done r =>
    cases r with
    | ok a =>
      obtain rfl := visits_done.mp h
      exact .inl .here
    | error e => exact .inr ⟨e, s, .done, h⟩
  | call c next ih =>
    cases h with
    | here => exact .inl .here
    | call hc hn =>
      rcases ih _ hn with h | ⟨e, s₁, hp, hf⟩
      · exact .inl (.call hc h)
      · exact .inr ⟨e, s₁, .call hc hp, hf⟩

end Inversion

/-! ## Invariants -/

section Invariants

variable {P : (σ : Type) → C σ → Prop} {I : S → Prop}

theorem Prog.Calls.bind {f : α → Prog C ε β} (hp : p.Calls P) (hf : ∀ a, (f a).Calls P) :
    (p >>= f).Calls P := by
  change (p.bind f).Calls P
  induction p with
  | done r =>
    cases r with
    | ok a => exact hf a
    | error e => trivial
  | call c next ih => exact ⟨hp.1, fun y => ih y (hp.2 y)⟩

theorem Prog.Calls.handle {f : ε → Prog C ε α} (hp : p.Calls P) (hf : ∀ e, (f e).Calls P) :
    (p.handle f).Calls P := by
  induction p with
  | done r =>
    cases r with
    | ok a => trivial
    | error e => exact hf e
  | call c next ih => exact ⟨hp.1, fun y => ih y (hp.2 y)⟩

theorem Prog.Calls.mono {Q : (σ : Type) → C σ → Prop} (hp : p.Calls P)
    (h : ∀ σ c, P σ c → Q σ c) : p.Calls Q := by
  induction p with
  | done r => trivial
  | call c next ih => exact ⟨h _ c hp.1, fun y => ih y (hp.2 y)⟩

/-- What the calls of a program keep holds wherever its run stops. -/
theorem Visits.invariant (hv : Visits H s p s') (hp : p.Calls P)
    (step : ∀ {σ : Type} {a b : S} {c : C σ} {y : σ}, P σ c → H σ a c y b → I a → I b)
    (h : I s) : I s' := by
  induction hv with
  | here => exact h
  | call hc _ ih => exact ih (hp.2 _) (step hp.1 hc h)

/-- Every call of a run starts where the calls before it lead. -/
theorem Traced.call_mem {trace : List (S × S)} {c : S × S} (h : Traced H s p trace s')
    (hc : c ∈ trace) :
    Visits H s p c.1 ∧ ∃ (σ : Type) (o : C σ) (y : σ), H σ c.1 o y c.2 := by
  induction h with
  | here => exact absurd hc List.not_mem_nil
  | call h _ ih =>
    rcases List.mem_cons.mp hc with rfl | hc
    · exact ⟨.here, _, _, _, h⟩
    · obtain ⟨hv, hcall⟩ := ih hc
      exact ⟨.call h hv, hcall⟩

/-- The run goes on after each of its calls. -/
theorem Traced.rest_mem {trace : List (S × S)} {c : S × S} (h : Traced H s p trace s')
    (hc : c ∈ trace) : ∃ p' : Prog C ε α, Visits H c.2 p' s' := by
  induction h with
  | here => exact absurd hc List.not_mem_nil
  | call _ hn ih =>
    rcases List.mem_cons.mp hc with rfl | hc
    · exact ⟨_, hn.visits⟩
    · exact ih hc

/-- What came to hold within a run came to hold at one of its calls. -/
theorem Traced.exists_call {Q : S → Prop} {trace : List (S × S)} (h : Traced H s p trace s')
    (h₀ : ¬Q s) (h₁ : Q s') : ∃ c ∈ trace, ¬Q c.1 ∧ Q c.2 := by
  induction h with
  | here => exact absurd h₁ h₀
  | @call σ s s₁ s₂ c y next trace hc hn ih =>
    by_cases hq : Q s₁
    · exact ⟨(s, s₁), List.mem_cons_self, h₀, hq⟩
    · obtain ⟨c, hmem, hQ⟩ := ih hq h₁
      exact ⟨c, List.mem_cons_of_mem _ hmem, hQ⟩

theorem calls_true (p : Prog C ε α) : p.Calls fun _ _ => True := by
  induction p with
  | done r => trivial
  | call c next ih => exact ⟨trivial, ih⟩

end Invariants

/-! ## Pools -/

section Pools

open Relation

variable {ι : Type*} [DecidableEq ι] (H : ι → (σ : Type) → S → C σ → σ → S → Prop)

/-- The state of a service, and what is left of the programs of its threads. -/
structure Pool (ι : Type*) (S : Type*) (C : Type → Type 1) (ε α : Type) where
  state : S
  thread : ι → Prog C ε α

/-- One call of one thread ; the service knows which thread calls. -/
inductive Pool.Step : Pool ι S C ε α → Pool ι S C ε α → Prop
  | call {σ : Type} {s s₁ : S} {thread : ι → Prog C ε α} {i : ι} {c : C σ} {y : σ} {next}
      (hi : thread i = .call c next) (h : H i σ s c y s₁) :
      Step ⟨s, thread⟩ ⟨s₁, Function.update thread i (next y)⟩

/-- Calls of the threads in any order. A thread that is not scheduled any more has crashed. -/
def Pool.Run : Pool ι S C ε α → Pool ι S C ε α → Prop := ReflTransGen (Pool.Step H)

/-- What the calls of any threads do to the service. -/
def Interferes : S → S → Prop :=
  ReflTransGen fun a b => ∃ (i : ι) (σ : Type) (c : C σ) (y : σ), H i σ a c y b

variable {H}

/-- The calls of a pool are calls of any threads. -/
theorem Pool.Run.interferes {P Q : Pool ι S C ε α} (h : Pool.Run H P Q) :
    Interferes H P.state Q.state := by
  induction h with
  | refl => exact .refl
  | tail _ hstep ih =>
    cases hstep with
    | call _ hcall => exact ih.tail ⟨_, _, _, _, hcall⟩

/-- A run of one thread alone is a run of the pool. -/
theorem Visits.pool {i : ι} {thread : ι → Prog C ε α}
    (h : Visits (H i) s p s') (hi : thread i = p) :
    ∃ rest, Pool.Run H ⟨s, thread⟩ ⟨s', rest⟩ := by
  induction h generalizing thread with
  | here => exact ⟨thread, .refl⟩
  | @call σ s s₁ s₂ c y next hc _ ih =>
    obtain ⟨rest, hrest⟩ := @ih (Function.update thread i (next y))
      (Function.update_self i _ thread)
    exact ⟨rest, .head (.call hi hc) hrest⟩

end Pools

/-! ## Rely and guarantee -/

section RelyGuarantee

open Relation

variable {I : S → Prop} {R G : S → S → Prop} {Q Q' : S → Except ε α → Prop}

/-- Whatever the others do between the calls of a program, as far as `R` says and keeping `I`,
its calls keep `I` and do no more than `G` says, and its result satisfies `Q`. -/
def Guarantees (H : (σ : Type) → S → C σ → σ → S → Prop) (I : S → Prop) (R G : S → S → Prop)
    (Q : S → Except ε α → Prop) : S → Prog C ε α → Prop
  | s, .done r => Q s r
  | s, .call c next => ∀ m, R s m → I m → ∀ y b, H _ m c y b →
      I b ∧ G m b ∧ Guarantees H I R G Q b (next y)

theorem Guarantees.mono (h : Guarantees H I R G Q s p) (hQ : ∀ s r, Q s r → Q' s r) :
    Guarantees H I R G Q' s p := by
  induction p generalizing s with
  | done r => exact hQ s r h
  | call c next ih =>
    intro m hm hI y b hc
    obtain ⟨hb, hg, hn⟩ := h m hm hI y b hc
    exact ⟨hb, hg, ih y hn⟩

/-- What the others do before the first call is nothing new. -/
theorem Guarantees.interference (h : Guarantees H I R G Q s p) (hR : R s s') (hI : I s')
    (htrans : ∀ {a b c}, R a b → R b c → R a c)
    (hQ : ∀ {a b r}, R a b → I b → Q a r → Q b r) : Guarantees H I R G Q s' p := by
  cases p with
  | done r => exact hQ hR hI h
  | call c next => exact fun m hm => h m (htrans hR hm)

theorem guarantees_bind {f : α → Prog C ε β} {Q : S → Except ε β → Prop}
    (h : Guarantees H I R G (fun s r => (∀ a, r = .ok a → Guarantees H I R G Q s (f a)) ∧
      ∀ e, r = .error e → Q s (.error e)) s p) : Guarantees H I R G Q s (p >>= f) := by
  change Guarantees H I R G Q s (p.bind f)
  induction p generalizing s with
  | done r =>
    cases r with
    | ok a => exact h.1 a rfl
    | error e => exact h.2 e rfl
  | call c next ih =>
    intro m hm hI y b hc
    obtain ⟨hb, hg, hn⟩ := h m hm hI y b hc
    exact ⟨hb, hg, ih y hn⟩

theorem guarantees_handle {f : ε → Prog C ε α}
    (h : Guarantees H I R G (fun s r => (∀ a, r = .ok a → Q s (.ok a)) ∧
      ∀ e, r = .error e → Guarantees H I R G Q s (f e)) s p) :
    Guarantees H I R G Q s (p.handle f) := by
  induction p generalizing s with
  | done r =>
    cases r with
    | ok a => exact h.1 a rfl
    | error e => exact h.2 e rfl
  | call c next ih =>
    intro m hm hI y b hc
    obtain ⟨hb, hg, hn⟩ := h m hm hI y b hc
    exact ⟨hb, hg, ih y hn⟩

/-- A program whose calls change nothing guarantees what its runs establish. -/
theorem guarantees_of_ends {K : (σ : Type) → C σ → Prop} (hp : p.Calls K)
    (hquiet : ∀ {σ : Type} {m b : S} {c : C σ} {y : σ}, K σ c → H σ m c y b → b = m)
    (hR : ∀ a, R a a) (hG : ∀ a, G a a) (htrans : ∀ {a b c}, R a b → R b c → R a c)
    (hs : I s) (h : ∀ s' r, R s s' → I s' →
      Ends (fun σ a c y b => ∃ m, R a m ∧ I m ∧ H σ m c y b) s p r s' → Q s' r) :
    Guarantees H I R G Q s p := by
  induction p generalizing s with
  | done r => exact h s r (hR s) hs .done
  | call c next ih =>
    intro m hm hI y b hc
    obtain rfl := hquiet hp.1 hc
    exact ⟨hI, hG b, ih y (hp.2 y) hI fun s' r hs' hI' hends =>
      h s' r (htrans hm hs') hI' (.call ⟨b, hm, hI, hc⟩ hends)⟩

/-- Threads that rely on no more than what the others guarantee keep the invariant together,
and each keeps its guarantee. -/
theorem Pool.Run.guarantees {ι : Type*} [DecidableEq ι]
    {H : ι → (σ : Type) → S → C σ → σ → S → Prop} {R G : ι → S → S → Prop}
    {Q : ι → S → Except ε α → Prop} {A B : Pool ι S C ε α} (h : Pool.Run H A B)
    (hrefl : ∀ i a, R i a a) (htrans : ∀ i {a b c}, R i a b → R i b c → R i a c)
    (hG : ∀ i j, i ≠ j → ∀ {a b}, G j a b → R i a b)
    (hQ : ∀ i {a b r}, R i a b → I b → Q i a r → Q i b r) (hI : I A.state)
    (hA : ∀ i, Guarantees (H i) I (R i) (G i) (Q i) A.state (A.thread i)) :
    I B.state ∧ ∀ i, Guarantees (H i) I (R i) (G i) (Q i) B.state (B.thread i) := by
  induction h with
  | refl => exact ⟨hI, hA⟩
  | tail _ hstep ih =>
    cases hstep with
    | @call σ s s₁ thread j c y next hj hcall =>
      obtain ⟨hI, hthreads⟩ := ih
      have hown := hthreads j
      dsimp only at hown hI hthreads
      rw [hj] at hown
      obtain ⟨hI₁, hg, hnext⟩ := hown s (hrefl j s) hI y s₁ hcall
      refine ⟨hI₁, fun i => ?_⟩
      by_cases hij : i = j
      · subst hij
        simpa only [Function.update_self] using hnext
      · simp only [Function.update_of_ne hij]
        exact (hthreads i).interference (hG i j hij hg) hI₁ (htrans i) (hQ i)

end RelyGuarantee

end Interaction
