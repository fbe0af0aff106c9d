import Mathlib

/-!
# Lease books

A lease book assigns jobs to leases. A job is first assigned by `issue`; a later lease for
it comes only from `reassign`, which names the job's latest lease. A lease is active until it
expires, is cancelled, is superseded by a reassignment or is consumed; only an active latest
lease whose inputs were resolved is consumed.

A run is a list of moves from the empty book. `Sound` is what every run establishes : the
leases of a job, in order, are linked by the successor map (`linked`), the last one is the
job's latest, and each lease is opened, resolved and consumed at most once. `succ_acyclic`
follows, and `Steps.off_settled` says that a job whose latest lease is consumed is never moved
again.
-/

namespace LeaseBook

variable {ι κ : Type}

/-! ## Books and moves -/

/-- The dispositions of a lease. -/
inductive Status
  | active
  | expired
  | cancelled
  | superseded
  | consumed
  deriving DecidableEq, Repr

/-- The moves of a book. -/
inductive Move (ι κ : Type)
  | issue (job : κ) (new : ι)
  | reassign (job : κ) (old new : ι)
  | expire (lease : ι)
  | cancel (lease : ι)
  | resolve (lease : ι)
  | consume (lease : ι)
  deriving DecidableEq, Repr

/-- A lease book. -/
@[ext] structure Book (ι κ : Type) where
  job : ι → Option κ
  status : ι → Option Status
  latest : κ → Option ι
  succ : ι → Option ι
  resolved : ι → Bool

/-- The book before any move. -/
def Book.empty : Book ι κ where
  job _ := none
  status _ := none
  latest _ := none
  succ _ := none
  resolved _ := false

section Moves

variable [DecidableEq ι] [DecidableEq κ]

/-- Open the active, latest lease `i` of job `k`. -/
def Book.openLease (b : Book ι κ) (k : κ) (i : ι) : Book ι κ :=
  { b with
    job := Function.update b.job i (some k)
    status := Function.update b.status i (some .active)
    latest := Function.update b.latest k (some i) }

/-- Give lease `i` the disposition `s`. -/
def Book.mark (b : Book ι κ) (i : ι) (s : Status) : Book ι κ :=
  { b with status := Function.update b.status i (some s) }

/-- Link `p` to its successor `i`; an active `p` is superseded. -/
def Book.retire (b : Book ι κ) (p i : ι) : Book ι κ :=
  { b with
    status := if b.status p = some .active then Function.update b.status p (some .superseded)
      else b.status
    succ := Function.update b.succ p (some i) }

/-- One accepted move. -/
inductive Step (b : Book ι κ) : Move ι κ → Book ι κ → Prop
  | issue {k i} (hfresh : b.status i = none) (hnever : b.latest k = none) :
      Step b (.issue k i) (b.openLease k i)
  | reassign {k p i} (hfresh : b.status i = none) (hlatest : b.latest k = some p)
      (hlast : b.succ p = none) (hstatus : b.status p = some .active ∨
        b.status p = some .expired ∨ b.status p = some .cancelled) :
      Step b (.reassign k p i) ((b.retire p i).openLease k i)
  | expire {k i} (hjob : b.job i = some k) (hlatest : b.latest k = some i)
      (hactive : b.status i = some .active) : Step b (.expire i) (b.mark i .expired)
  | cancel {k i} (hjob : b.job i = some k) (hlatest : b.latest k = some i)
      (hactive : b.status i = some .active) : Step b (.cancel i) (b.mark i .cancelled)
  | resolve {k i} (hjob : b.job i = some k) (hlatest : b.latest k = some i)
      (hactive : b.status i = some .active) (hfresh : b.resolved i = false) :
      Step b (.resolve i) { b with resolved := Function.update b.resolved i true }
  | consume {k i} (hjob : b.job i = some k) (hlatest : b.latest k = some i)
      (hactive : b.status i = some .active) (hresolved : b.resolved i = true) :
      Step b (.consume i) (b.mark i .consumed)

/-- `Steps h b d` : the moves `h` lead from `b` to `d`. -/
def Steps : List (Move ι κ) → Book ι κ → Book ι κ → Prop
  | [], b, d => b = d
  | m :: h, b, d => ∃ c, Step b m c ∧ Steps h c d

theorem Steps.append {h₁ h₂ : List (Move ι κ)} {b d : Book ι κ} :
    Steps (h₁ ++ h₂) b d ↔ ∃ c, Steps h₁ b c ∧ Steps h₂ c d := by
  induction h₁ generalizing b with
  | nil => simp [Steps]
  | cons m h₁ ih =>
    simp only [List.cons_append, Steps, ih]
    constructor
    · rintro ⟨c, hm, e, h₁, h₂⟩
      exact ⟨e, ⟨c, hm, h₁⟩, h₂⟩
    · rintro ⟨e, ⟨c, hm, h₁⟩, h₂⟩
      exact ⟨c, hm, e, h₁, h₂⟩

theorem Steps.snoc {h : List (Move ι κ)} {m : Move ι κ} {b d : Book ι κ} :
    Steps (h ++ [m]) b d ↔ ∃ c, Steps h b c ∧ Step c m d := by
  simp [Steps.append, Steps]

/-- A predicate of the moves so far and the book that every step keeps holds after every
run from the empty book. -/
theorem Steps.invariant (I : List (Move ι κ) → Book ι κ → Prop) (start : I [] .empty)
    (step : ∀ h b m d, I h b → Step b m d → I (h ++ [m]) d)
    {h : List (Move ι κ)} {b : Book ι κ} (run : Steps h .empty b) : I h b := by
  induction h using List.reverseRecOn generalizing b with
  | nil =>
    obtain rfl : Book.empty = b := run
    exact start
  | append_singleton h m ih =>
    obtain ⟨c, hc, hm⟩ := Steps.snoc.mp run
    exact step h c m b (ih hc) hm

end Moves

/-! ## The leases a history opens -/

/-- The job and lease a move opens. -/
def Move.opened : Move ι κ → Option (κ × ι)
  | .issue k i => some (k, i)
  | .reassign k _ i => some (k, i)
  | _ => none

/-- The leases of a history with their jobs, in order. -/
def opened (h : List (Move ι κ)) : List (κ × ι) :=
  h.filterMap Move.opened

/-- The leases a history opens. -/
def leases (h : List (Move ι κ)) : List ι := (opened h).map Prod.snd

theorem opened_snoc (h : List (Move ι κ)) (m : Move ι κ) :
    opened (h ++ [m]) = opened h ++ m.opened.toList := by
  cases hm : m.opened <;> simp [opened, List.filterMap_append, hm]

theorem leases_snoc (h : List (Move ι κ)) (m : Move ι κ) :
    leases (h ++ [m]) = leases h ++ (m.opened.map Prod.snd).toList := by
  cases hm : m.opened <;> simp [leases, opened_snoc, hm]

section Chains

variable [DecidableEq κ]

/-- The leases of a job, in order. -/
def chain (k : κ) (h : List (Move ι κ)) : List ι :=
  ((opened h).filter fun x => x.1 = k).map Prod.snd

/-- The moves that open a lease of a job. -/
def openings (k : κ) (h : List (Move ι κ)) : List (Move ι κ) :=
  h.filter fun m => m.opened.map Prod.fst = some k

theorem chain_snoc (k : κ) (h : List (Move ι κ)) (m : Move ι κ) :
    chain k (h ++ [m]) = chain k h ++ (m.opened.toList.filter fun x => x.1 = k).map Prod.snd := by
  simp [chain, opened_snoc]

theorem openings_snoc (k : κ) (h : List (Move ι κ)) (m : Move ι κ) :
    openings k (h ++ [m]) =
      openings k h ++ if m.opened.map Prod.fst = some k then [m] else [] := by
  simp only [openings, List.filter_append, List.filter_cons, List.filter_nil]
  split_ifs <;> simp_all

theorem mem_chain {k : κ} {i : ι} {h : List (Move ι κ)} : i ∈ chain k h ↔ (k, i) ∈ opened h := by
  simp [chain]

end Chains

variable {h : List (Move ι κ)} {b d : Book ι κ} {m : Move ι κ}

/-- The book knows exactly the leases the history opened, each opened once. -/
structure Known (h : List (Move ι κ)) (b : Book ι κ) : Prop where
  job : ∀ i k, b.job i = some k ↔ (k, i) ∈ opened h
  status : ∀ i, b.status i = none ↔ i ∉ leases h
  nodup : (leases h).Nodup

theorem Known.mem_leases (ih : Known h b) {i : ι} {k : κ} (hjob : b.job i = some k) :
    i ∈ leases h :=
  List.mem_map.mpr ⟨(k, i), (ih.job i k).mp hjob, rfl⟩

/-- A move that opens nothing and keeps the jobs and the known leases. -/
theorem Known.keep (ih : Known h b) (hm : m.opened = none) (hjob : d.job = b.job)
    (hstatus : ∀ i, d.status i = none ↔ b.status i = none) : Known (h ++ [m]) d where
  job i k := by simp [opened_snoc, hm, hjob, ih.job]
  status i := by simp [leases_snoc, hm, hstatus, ih.status]
  nodup := by simpa [leases_snoc, hm] using ih.nodup

variable [DecidableEq ι]

/-- A move that opens one fresh lease. -/
theorem Known.open {i : ι} {k : κ} (ih : Known h b) (hm : m.opened = some (k, i))
    (hfresh : b.status i = none) (hjob : d.job = Function.update b.job i (some k))
    (hstatus : ∀ j, d.status j = none ↔ j ≠ i ∧ b.status j = none) : Known (h ++ [m]) d where
  job j k' := by
    have hi : i ∉ leases h := (ih.status i).mp hfresh
    by_cases hj : j = i
    · subst hj
      have hnot : (k', j) ∉ opened h := fun hmem => hi (List.mem_map.mpr ⟨_, hmem, rfl⟩)
      simp [opened_snoc, hm, hjob, hnot, eq_comm]
    · simp [opened_snoc, hm, hjob, hj, ih.job]
  status j := by simp [leases_snoc, hm, hstatus, ih.status, and_comm]
  nodup := by
    have hi : i ∉ leases h := (ih.status i).mp hfresh
    simp only [leases_snoc, hm, Option.map_some, Option.toList_some]
    exact List.nodup_append.mpr ⟨ih.nodup, by simp, by
      intro a ha c hc heq
      obtain rfl : c = i := by simpa using hc
      exact hi (heq ▸ ha)⟩

theorem mark_status_eq_none {i j : ι} {s : Status} (hi : b.status i ≠ none) :
    (b.mark i s).status j = none ↔ b.status j = none := by
  by_cases hj : j = i
  · subst hj
    simp [Book.mark, hi]
  · simp [Book.mark, hj]

theorem retire_status_eq_none {p i j : ι} (hp : b.status p ≠ none) :
    (b.retire p i).status j = none ↔ b.status j = none := by
  unfold Book.retire
  split_ifs with hactive
  · exact mark_status_eq_none (s := .superseded) hp
  · rfl

variable [DecidableEq κ]

theorem openLease_status_eq_none {k : κ} {i j : ι} :
    (b.openLease k i).status j = none ↔ j ≠ i ∧ b.status j = none := by
  by_cases hj : j = i
  · subst hj
    simp [Book.openLease]
  · simp [Book.openLease, hj]

theorem Known.step (ih : Known h b) (hs : Step b m d) : Known (h ++ [m]) d := by
  cases hs with
  | issue hfresh hnever =>
    exact ih.open rfl hfresh rfl fun j => openLease_status_eq_none
  | @reassign k p i hfresh hlatest hlast hstatus =>
    have hp : b.status p ≠ none := by rcases hstatus with h | h | h <;> simp [h]
    refine ih.open rfl hfresh rfl fun j => ?_
    rw [openLease_status_eq_none, retire_status_eq_none hp]
  | expire hjob hlatest hactive =>
    exact ih.keep rfl rfl fun j => mark_status_eq_none (by simp [hactive])
  | cancel hjob hlatest hactive =>
    exact ih.keep rfl rfl fun j => mark_status_eq_none (by simp [hactive])
  | resolve hjob hlatest hactive hfresh => exact ih.keep rfl rfl fun j => Iff.rfl
  | consume hjob hlatest hactive hresolved =>
    exact ih.keep rfl rfl fun j => mark_status_eq_none (by simp [hactive])

theorem known (run : Steps h .empty b) : Known h b := by
  refine Steps.invariant Known ⟨?_, ?_, ?_⟩ (fun h b m d ih hs => ih.step hs) run
  · simp [Book.empty, opened]
  · simp [Book.empty, leases, opened]
  · simp [leases, opened]

/-! ## Chains of leases -/

/-- The successor map links the leases of each job in order, up to the job's latest. -/
structure Linked (h : List (Move ι κ)) (b : Book ι κ) : Prop where
  latest : ∀ k, b.latest k = (chain k h).getLast?
  linked : ∀ k, (chain k h).IsChain fun p i => b.succ p = some i
  last : ∀ k i, b.latest k = some i → b.succ i = none
  same : ∀ p i, b.succ p = some i → ∃ k, (k, p) ∈ opened h ∧ (k, i) ∈ opened h
  order : ∀ p i, b.succ p = some i → (leases h).idxOf p < (leases h).idxOf i
  injective : ∀ p q i, b.succ p = some i → b.succ q = some i → p = q
  first : ∀ k, openings k h = [] ∧ b.latest k = none ∨
    ∃ i rest, openings k h = .issue k i :: rest ∧ b.latest k ≠ none ∧
      ∀ m ∈ rest, ∃ p j, m = .reassign k p j

theorem Linked.keep (ih : Linked h b) (hm : m.opened = none) (hlatest : d.latest = b.latest)
    (hsucc : d.succ = b.succ) : Linked (h ++ [m]) d where
  latest k := by simp [chain_snoc, hm, hlatest, ih.latest]
  linked k := by simpa [chain_snoc, hm, hsucc] using ih.linked k
  last k i := by simpa [hlatest, hsucc] using ih.last k i
  same p i := by simpa [hsucc, opened_snoc, hm] using ih.same p i
  order p i := by simpa [hsucc, leases_snoc, hm] using ih.order p i
  injective p q i := by simpa [hsucc] using ih.injective p q i
  first k := by simpa [openings_snoc, hm, hlatest] using ih.first k

/-- A link of the successor map joins two opened leases. -/
theorem Linked.mem_leases (ih : Linked h b) {p i : ι} (hp : b.succ p = some i) :
    p ∈ leases h ∧ i ∈ leases h := by
  obtain ⟨k, hp, hi⟩ := ih.same p i hp
  exact ⟨List.mem_map.mpr ⟨_, hp, rfl⟩, List.mem_map.mpr ⟨_, hi, rfl⟩⟩

theorem chain_eq_nil (ih : Linked h b) {k : κ} (hnever : b.latest k = none) : chain k h = [] := by
  rw [ih.latest, List.getLast?_eq_none_iff] at hnever
  exact hnever

/-- Appending a fresh lease keeps the order of the earlier ones. -/
theorem idxOf_append_lt {l : List ι} {p i j : ι} (hi : i ∈ l) (hp : l.idxOf p < l.idxOf i) :
    (l ++ [j]).idxOf p < (l ++ [j]).idxOf i := by
  have hpl : p ∈ l := List.idxOf_lt_length_iff.mp (hp.trans (List.idxOf_lt_length_of_mem hi))
  rwa [List.idxOf_append_of_mem hpl, List.idxOf_append_of_mem hi]

theorem Linked.issue {k : κ} {i : ι} (hk : Known h b) (ih : Linked h b) (hfresh : b.status i = none)
    (hnever : b.latest k = none) : Linked (h ++ [.issue k i]) (b.openLease k i) where
  latest k' := by
    by_cases hkk : k = k'
    · subst hkk
      simp [chain_snoc, Move.opened, Book.openLease]
    · simp [chain_snoc, Move.opened, Book.openLease, hkk, Ne.symm hkk, ih.latest]
  linked k' := by
    by_cases hkk : k = k'
    · subst hkk
      simp [chain_snoc, Move.opened, chain_eq_nil ih hnever]
    · simpa [chain_snoc, Move.opened, Book.openLease, hkk] using ih.linked k'
  last k' j hj := by
    by_cases hkk : k' = k
    · subst hkk
      obtain rfl : i = j := by simpa [Book.openLease] using hj
      cases hsucc : b.succ i with
      | none => exact hsucc
      | some j => exact absurd (ih.mem_leases hsucc).1 ((hk.status i).mp hfresh)
    · exact ih.last k' j (by simpa [Book.openLease, hkk] using hj)
  same p j hp := by
    obtain ⟨k', hp, hj⟩ := ih.same p j hp
    exact ⟨k', by simp [opened_snoc, hp], by simp [opened_snoc, hj]⟩
  order p j hp := by
    simpa [leases_snoc, Move.opened] using idxOf_append_lt (ih.mem_leases hp).2 (ih.order p j hp)
  injective := ih.injective
  first k' := by
    by_cases hkk : k = k'
    · subst hkk
      rcases ih.first k with ⟨hnil, -⟩ | ⟨_, _, -, hsome, -⟩
      · exact Or.inr ⟨i, [], by simp [openings_snoc, Move.opened, hnil], by simp [Book.openLease],
          by simp⟩
      · exact absurd hnever hsome
    · simpa [openings_snoc, Move.opened, Book.openLease, hkk, Ne.symm hkk] using ih.first k'

theorem Linked.reassign {k : κ} {p i : ι} (hk : Known h b) (ih : Linked h b)
    (hfresh : b.status i = none) (hlatest : b.latest k = some p) (hlast : b.succ p = none) :
    Linked (h ++ [.reassign k p i]) ((b.retire p i).openLease k i) := by
  have hchain : (chain k h).getLast? = some p := by rw [← ih.latest, hlatest]
  have hp : (k, p) ∈ opened h := mem_chain.mp (List.mem_of_getLast? hchain)
  have hpl : p ∈ leases h := List.mem_map.mpr ⟨_, hp, rfl⟩
  have hi : i ∉ leases h := (hk.status i).mp hfresh
  have hip : i ≠ p := fun heq => hi (heq ▸ hpl)
  -- The earlier links survive, because `p` had no successor.
  have hkeep : ∀ q j, b.succ q = some j → Function.update b.succ p (some i) q = some j := by
    intro q j hq
    have hqp : q ≠ p := by
      rintro rfl
      simp [hlast] at hq
    simpa [hqp] using hq
  have hinv : ∀ q j, Function.update b.succ p (some i) q = some j →
      q = p ∧ j = i ∨ b.succ q = some j := by
    intro q j hq
    by_cases hqp : q = p
    · subst hqp
      exact Or.inl ⟨rfl, by simpa [eq_comm] using hq⟩
    · exact Or.inr (by simpa [hqp] using hq)
  refine ⟨?_, ?_, ?_, ?_, ?_, ?_, ?_⟩
  · intro k'
    by_cases hkk : k = k'
    · subst hkk
      simp [chain_snoc, Move.opened, Book.openLease]
    · simp [chain_snoc, Move.opened, Book.openLease, Book.retire, hkk, Ne.symm hkk, ih.latest]
  · intro k'
    have hold : (chain k' h).IsChain fun q j => Function.update b.succ p (some i) q = some j :=
      (ih.linked k').imp fun q j => hkeep q j
    by_cases hkk : k = k'
    · subst hkk
      simp only [chain_snoc, Move.opened, Option.toList_some, decide_true, List.filter_cons_of_pos,
        List.filter_nil, List.map_cons, List.map_nil]
      refine List.IsChain.append hold (List.isChain_singleton i) ?_
      intro q hq j hj
      obtain rfl : p = q := by simpa [hchain] using hq
      obtain rfl : i = j := by simpa using hj
      simp [Book.openLease, Book.retire]
    · simpa [chain_snoc, Move.opened, hkk, Book.openLease, Book.retire] using hold
  · intro k' j hj
    by_cases hkk : k' = k
    · subst hkk
      obtain rfl : i = j := by simpa [Book.openLease] using hj
      cases hsucc : b.succ i with
      | none => simp [Book.openLease, Book.retire, hip, hsucc]
      | some j => exact absurd (ih.mem_leases hsucc).1 hi
    · have hj' : b.latest k' = some j := by simpa [Book.openLease, Book.retire, hkk] using hj
      have hjp : j ≠ p := by
        rintro rfl
        have hmem : (k', j) ∈ opened h := mem_chain.mp (List.mem_of_getLast? (ih.latest k' ▸ hj'))
        have hj1 := (hk.job j k').mpr hmem
        rw [(hk.job j k).mpr hp] at hj1
        exact hkk (Option.some.inj hj1).symm
      simpa [Book.openLease, Book.retire, hjp] using ih.last k' j hj'
  · intro q j hq
    rcases hinv q j hq with ⟨rfl, rfl⟩ | hq
    · exact ⟨k, by simp [opened_snoc, hp], by simp [opened_snoc, Move.opened]⟩
    · obtain ⟨k', hq, hj⟩ := ih.same q j hq
      exact ⟨k', by simp [opened_snoc, hq], by simp [opened_snoc, hj]⟩
  · intro q j hq
    simp only [leases_snoc, Move.opened, Option.map_some, Option.toList_some]
    rcases hinv q j hq with ⟨rfl, rfl⟩ | hq
    · rw [List.idxOf_append_of_mem hpl, List.idxOf_append_of_notMem hi]
      have := List.idxOf_lt_length_of_mem hpl
      omega
    · exact idxOf_append_lt (ih.mem_leases hq).2 (ih.order q j hq)
  · intro q r j hq hr
    rcases hinv q j hq with ⟨hqp, hji⟩ | hq' <;> rcases hinv r j hr with ⟨hrp, hji'⟩ | hr'
    · rw [hqp, hrp]
    · exact absurd (hji ▸ (ih.mem_leases hr').2) hi
    · exact absurd (hji' ▸ (ih.mem_leases hq').2) hi
    · exact ih.injective q r j hq' hr'
  · intro k'
    by_cases hkk : k = k'
    · subst hkk
      rcases ih.first k with ⟨-, hnone⟩ | ⟨i₀, rest, hopen, hsome, hrest⟩
      · simp [hlatest] at hnone
      · refine Or.inr ⟨i₀, rest ++ [.reassign k p i], ?_, by simp [Book.openLease], ?_⟩
        · simp [openings_snoc, Move.opened, hopen]
        · intro m hm
          rcases List.mem_append.mp hm with hm | hm
          · exact hrest m hm
          · exact ⟨p, i, by simpa using hm⟩
    · simpa [openings_snoc, Move.opened, Book.openLease, Book.retire, hkk, Ne.symm hkk]
        using ih.first k'

theorem Linked.step (hk : Known h b) (ih : Linked h b) (hs : Step b m d) :
    Linked (h ++ [m]) d := by
  cases hs with
  | issue hfresh hnever => exact ih.issue hk hfresh hnever
  | reassign hfresh hlatest hlast hstatus => exact ih.reassign hk hfresh hlatest hlast
  | expire hjob hlatest hactive => exact ih.keep rfl rfl rfl
  | cancel hjob hlatest hactive => exact ih.keep rfl rfl rfl
  | resolve hjob hlatest hactive hfresh => exact ih.keep rfl rfl rfl
  | consume hjob hlatest hactive hresolved => exact ih.keep rfl rfl rfl

theorem linked (run : Steps h .empty b) : Linked h b := by
  have hboth : Known h b ∧ Linked h b := by
    refine Steps.invariant (fun h b => Known h b ∧ Linked h b) ⟨known rfl, ?_⟩
      (fun h b m d ih hs => ⟨ih.1.step hs, ih.2.step ih.1 hs⟩) run
    exact ⟨by simp [Book.empty, chain, opened], by simp [chain, opened], by simp [Book.empty],
      by simp [Book.empty], by simp [Book.empty], by simp [Book.empty],
      fun k => Or.inl ⟨rfl, rfl⟩⟩
  exact hboth.2

/-- A superseded lease has a successor. -/
theorem succ_of_superseded (run : Steps h .empty b) {i : ι}
    (hsuper : b.status i = some .superseded) : b.succ i ≠ none := by
  revert i
  refine Steps.invariant (fun _ b => ∀ {i : ι}, b.status i = some .superseded → b.succ i ≠ none)
    (by simp [Book.empty]) ?_ run
  intro h b m d ih hs i hsuper
  cases hs with
  | @issue k j hfresh hnever =>
    by_cases hij : i = j
    · simp [Book.openLease, hij] at hsuper
    · exact ih (by simpa [Book.openLease, hij] using hsuper)
  | @reassign k p j hfresh hlatest hlast hstatus =>
    by_cases hip : i = p
    · simp [Book.openLease, Book.retire, hip]
    · by_cases hij : i = j
      · simp [Book.openLease, hij] at hsuper
      · simp only [Book.openLease, Book.retire, Function.update_of_ne hij] at hsuper
        simp only [Book.openLease, Book.retire, Function.update_of_ne hip]
        split_ifs at hsuper
        · exact ih (by simpa [hip] using hsuper)
        · exact ih hsuper
  | @expire k j hjob hlatest hactive =>
    by_cases hij : i = j
    · simp [Book.mark, hij] at hsuper
    · exact ih (by simpa [Book.mark, hij] using hsuper)
  | @cancel k j hjob hlatest hactive =>
    by_cases hij : i = j
    · simp [Book.mark, hij] at hsuper
    · exact ih (by simpa [Book.mark, hij] using hsuper)
  | resolve hjob hlatest hactive hfresh => exact ih hsuper
  | @consume k j hjob hlatest hactive hresolved =>
    by_cases hij : i = j
    · simp [Book.mark, hij] at hsuper
    · exact ih (by simpa [Book.mark, hij] using hsuper)

/-- The latest lease of a job is active, expired, cancelled or consumed. -/
theorem status_of_latest (run : Steps h .empty b) {k : κ} {i : ι} (hlatest : b.latest k = some i) :
    ∃ s, b.status i = some s ∧ s ≠ .superseded := by
  have hmem : i ∈ leases h := by
    rw [(linked run).latest] at hlatest
    exact List.mem_map.mpr ⟨(k, i), mem_chain.mp (List.mem_of_getLast? hlatest), rfl⟩
  cases hs : b.status i with
  | none => exact absurd hmem (((known run).status i).mp hs)
  | some s =>
    refine ⟨s, rfl, ?_⟩
    rintro rfl
    exact succ_of_superseded run hs ((linked run).last k i hlatest)

/-- An active lease is the latest one of its job. -/
theorem latest_of_active (run : Steps h .empty b) {i : ι} (hactive : b.status i = some .active) :
    ∃ k, b.job i = some k ∧ b.latest k = some i := by
  revert i
  refine Steps.invariant (fun _ b => ∀ {i : ι}, b.status i = some .active →
    ∃ k, b.job i = some k ∧ b.latest k = some i) (by simp [Book.empty]) ?_ run
  intro h b m d ih hs i hactive
  -- Opening a lease of another job keeps the latest lease of `i`'s job.
  have hopen : ∀ {c : Book ι κ} {k : κ} {j : ι}, (c.openLease k j).status i = some .active →
      (∀ k', c.status i = some .active → c.latest k' = some i → k' ≠ k) →
      (c.status i = some .active → ∃ k, c.job i = some k ∧ c.latest k = some i) →
      ∃ k', (c.openLease k j).job i = some k' ∧ (c.openLease k j).latest k' = some i := by
    intro c k j hact hne hold
    by_cases hij : i = j
    · subst hij
      exact ⟨k, by simp [Book.openLease], by simp [Book.openLease]⟩
    · have hc : c.status i = some .active := by simpa [Book.openLease, hij] using hact
      obtain ⟨k', hjob, hlatest⟩ := hold hc
      exact ⟨k', by simpa [Book.openLease, hij] using hjob,
        by simpa [Book.openLease, hne k' hc hlatest] using hlatest⟩
  cases hs with
  | @issue k j hfresh hnever =>
    refine hopen hactive (fun k' _ hk' hkk => ?_) ih
    subst hkk
    simp [hnever] at hk'
  | @reassign k p j hfresh hlatest hlast hstatus =>
    have hretired : (b.retire p j).status i = some .active → b.status i = some .active ∧ i ≠ p := by
      intro hact
      unfold Book.retire at hact
      split_ifs at hact with hp
      · by_cases hip : i = p
        · simp [hip] at hact
        · exact ⟨by simpa [hip] using hact, hip⟩
      · exact ⟨hact, fun hip => hp (hip ▸ hact)⟩
    refine hopen hactive (fun k' hc hk' hkk => ?_) fun hc => ih (hretired hc).1
    subst hkk
    exact (hretired hc).2 (Option.some.inj (hk'.symm.trans hlatest))
  | @expire k j hjob hlatest hj =>
    by_cases hij : i = j
    · simp [hij, Book.mark] at hactive
    · exact ih (by simpa [Book.mark, hij] using hactive)
  | @cancel k j hjob hlatest hj =>
    by_cases hij : i = j
    · simp [hij, Book.mark] at hactive
    · exact ih (by simpa [Book.mark, hij] using hactive)
  | resolve hjob hlatest hj hfresh => exact ih hactive
  | @consume k j hjob hlatest hj hresolved =>
    by_cases hij : i = j
    · simp [hij, Book.mark] at hactive
    · exact ih (by simpa [Book.mark, hij] using hactive)

/-- No lease is its own successor, at any distance. -/
theorem succ_acyclic (run : Steps h .empty b) (i : ι) :
    ¬Relation.TransGen (fun p q => b.succ p = some q) i i := by
  have hlt : ∀ q, Relation.TransGen (fun p q => b.succ p = some q) i q →
      (leases h).idxOf i < (leases h).idxOf q := by
    intro q hq
    induction hq with
    | single hq => exact (linked run).order _ _ hq
    | tail _ hq ih => exact ih.trans ((linked run).order _ _ hq)
  intro hcycle
  exact lt_irrefl _ (hlt i hcycle)

/-! ## Consumption -/

/-- The history holds one `resolve` of a resolved lease and one `consume` of a consumed one,
and none of any other. -/
structure Settled (h : List (Move ι κ)) (b : Book ι κ) : Prop where
  resolved : ∀ i, h.count (.resolve i) = (b.resolved i).toNat
  consumed : ∀ i, h.count (.consume i) = if b.status i = some .consumed then 1 else 0

theorem Settled.step (ih : Settled h b) (hs : Step b m d) : Settled (h ++ [m]) d := by
  refine ⟨fun j => ?_, fun j => ?_⟩
  · rw [List.count_append, ih.resolved]
    cases hs with
    | @resolve k i hjob hlatest hactive hfresh =>
      by_cases hj : j = i
      · subst hj
        simp [hfresh]
      · simp [hj, Ne.symm hj]
    | issue hfresh hnever => simp [Book.openLease]
    | reassign hfresh hlatest hlast hstatus => simp [Book.openLease, Book.retire]
    | expire hjob hlatest hactive => simp [Book.mark]
    | cancel hjob hlatest hactive => simp [Book.mark]
    | consume hjob hlatest hactive hresolved => simp [Book.mark]
  · rw [List.count_append, ih.consumed]
    cases hs with
    | @consume k i hjob hlatest hactive hresolved =>
      by_cases hj : j = i
      · subst hj
        simp [Book.mark, hactive]
      · simp [Book.mark, hj, Ne.symm hj]
    | @issue k i hfresh hnever =>
      by_cases hj : j = i
      · subst hj
        simp [Book.openLease, hfresh]
      · simp [Book.openLease, hj]
    | @reassign k p i hfresh hlatest hlast hstatus =>
      have hp : b.status p ≠ some .consumed := by rcases hstatus with h | h | h <;> simp [h]
      by_cases hj : j = i
      · subst hj
        simp [Book.openLease, hfresh]
      · by_cases hjp : j = p
        · subst hjp
          simp only [Book.openLease, Book.retire, Function.update_of_ne hj]
          split_ifs <;> simp_all
        · simp only [Book.openLease, Book.retire, Function.update_of_ne hj]
          split_ifs <;> simp_all
    | @expire k i hjob hlatest hactive =>
      by_cases hj : j = i
      · subst hj
        simp [Book.mark, hactive]
      · simp [Book.mark, hj]
    | @cancel k i hjob hlatest hactive =>
      by_cases hj : j = i
      · subst hj
        simp [Book.mark, hactive]
      · simp [Book.mark, hj]
    | resolve hjob hlatest hactive hfresh => simp

theorem settled (run : Steps h .empty b) : Settled h b := by
  refine Steps.invariant Settled ⟨?_, ?_⟩ (fun h b m d ih hs => ih.step hs) run
  · simp [Book.empty]
  · simp [Book.empty]

/-- The job a move is about, in a book that knows its lease. -/
def Move.jobIn (b : Book ι κ) : Move ι κ → Option κ
  | .issue k _ => some k
  | .reassign k _ _ => some k
  | .expire i => b.job i
  | .cancel i => b.job i
  | .resolve i => b.job i
  | .consume i => b.job i

/-- The job of a known lease never changes. -/
theorem Steps.job_mono {h₀ : List (Move ι κ)} (start : Steps h₀ .empty b) (run : Steps h b d)
    {i : ι} {k : κ} (hjob : b.job i = some k) : d.job i = some k := by
  have hall : Steps (h₀ ++ h) .empty d := Steps.append.mpr ⟨b, start, run⟩
  have hmem : (k, i) ∈ opened h₀ := ((known start).job i k).mp hjob
  refine ((known hall).job i k).mpr ?_
  simp only [opened, List.filterMap_append] at hmem ⊢
  simp [hmem]

/-- A reassigned lease belongs to the job it is reassigned for. -/
theorem Steps.reassign_job (run : Steps h .empty d) {k : κ} {p i : ι}
    (hmem : .reassign k p i ∈ h) : d.job p = some k := by
  obtain ⟨pre, post, rfl⟩ := List.append_of_mem hmem
  obtain ⟨b, hpre, c, hm, hpost⟩ := Steps.append.mp run
  have hc : Steps (pre ++ [.reassign k p i]) .empty c := Steps.snoc.mpr ⟨b, hpre, hm⟩
  cases hm with
  | reassign hfresh hlatest hlast hstatus =>
    rw [(linked hpre).latest] at hlatest
    have hjob := ((known hpre).job p k).mpr (mem_chain.mp (List.mem_of_getLast? hlatest))
    have hp : p ≠ i := by
      rintro rfl
      exact ((known hpre).status p).mp hfresh ((known hpre).mem_leases hjob)
    exact Steps.job_mono hc hpost (by simpa [Book.openLease, Book.retire, hp] using hjob)

/-- A step after a job's latest lease was consumed is about another job, and leaves that
lease the latest and consumed. -/
theorem Step.off_settled {k : κ} {i : ι} (hs : Step b m d) (hlatest : b.latest k = some i)
    (hconsumed : b.status i = some .consumed) :
    (∃ k', m.jobIn d = some k' ∧ k' ≠ k) ∧ d.latest k = some i ∧ d.status i = some .consumed := by
  -- A move of an active latest lease of `k` would be a move of the consumed lease.
  have hother : ∀ j k', b.latest k' = some j → b.status j = some .active → k' ≠ k ∧ i ≠ j := by
    intro j k' hj hactive
    have hij : i ≠ j := by
      rintro rfl
      simp [hconsumed] at hactive
    refine ⟨?_, hij⟩
    rintro rfl
    exact hij (Option.some.inj (hlatest.symm.trans hj))
  cases hs with
  | @issue k' j hfresh hnever =>
    have hk : k' ≠ k := by
      rintro rfl
      simp [hlatest] at hnever
    have hij : i ≠ j := by
      rintro rfl
      simp [hconsumed] at hfresh
    exact ⟨⟨k', rfl, hk⟩, by simpa [Book.openLease, hk.symm] using hlatest,
      by simpa [Book.openLease, hij] using hconsumed⟩
  | @reassign k' p j hfresh hp hlast hstatus =>
    have hip : i ≠ p := by
      rintro rfl
      simp [hconsumed] at hstatus
    have hk : k' ≠ k := by
      rintro rfl
      exact hip (Option.some.inj (hlatest.symm.trans hp))
    have hij : i ≠ j := by
      rintro rfl
      simp [hconsumed] at hfresh
    refine ⟨⟨k', rfl, hk⟩, by simpa [Book.openLease, Book.retire, hk.symm] using hlatest, ?_⟩
    simp only [Book.openLease, Book.retire, Function.update_of_ne hij]
    split_ifs
    · rw [Function.update_of_ne hip, hconsumed]
    · exact hconsumed
  | @expire k' j hjob hj hactive =>
    obtain ⟨hk, hij⟩ := hother j k' hj hactive
    exact ⟨⟨k', hjob, hk⟩, hlatest, by simpa [Book.mark, hij] using hconsumed⟩
  | @cancel k' j hjob hj hactive =>
    obtain ⟨hk, hij⟩ := hother j k' hj hactive
    exact ⟨⟨k', hjob, hk⟩, hlatest, by simpa [Book.mark, hij] using hconsumed⟩
  | @resolve k' j hjob hj hactive hfresh =>
    obtain ⟨hk, -⟩ := hother j k' hj hactive
    exact ⟨⟨k', hjob, hk⟩, hlatest, hconsumed⟩
  | @consume k' j hjob hj hactive hresolved =>
    obtain ⟨hk, hij⟩ := hother j k' hj hactive
    exact ⟨⟨k', hjob, hk⟩, hlatest, by simpa [Book.mark, hij] using hconsumed⟩

/-- The job of a move in a later book. -/
theorem Move.jobIn_mono {h₀ : List (Move ι κ)} (start : Steps h₀ .empty b) (run : Steps h b d)
    {k : κ} (hm : m.jobIn b = some k) : m.jobIn d = some k := by
  cases m with
  | issue k' j => exact hm
  | reassign k' p j => exact hm
  | expire j => exact Steps.job_mono start run hm
  | cancel j => exact Steps.job_mono start run hm
  | resolve j => exact Steps.job_mono start run hm
  | consume j => exact Steps.job_mono start run hm

/-- Once a job's latest lease is consumed, every later move is about another job. -/
theorem Steps.off_settled {h₀ : List (Move ι κ)} {k : κ} {i : ι} (start : Steps h₀ .empty b)
    (run : Steps h b d) (hlatest : b.latest k = some i) (hconsumed : b.status i = some .consumed) :
    (∀ m ∈ h, m.jobIn d ≠ some k) ∧ d.latest k = some i ∧ d.status i = some .consumed := by
  induction h generalizing b h₀ with
  | nil =>
    obtain rfl : b = d := run
    exact ⟨by simp, hlatest, hconsumed⟩
  | cons m h ih =>
    obtain ⟨c, hm, hrun⟩ := run
    obtain ⟨⟨k', hjob, hk⟩, hlatest', hconsumed'⟩ := hm.off_settled hlatest hconsumed
    have hc : Steps (h₀ ++ [m]) .empty c := Steps.snoc.mpr ⟨b, start, hm⟩
    obtain ⟨hrest, hfinal⟩ := ih hc hrun hlatest' hconsumed'
    refine ⟨?_, hfinal⟩
    intro x hx
    rcases List.mem_cons.mp hx with rfl | hx
    · rw [Move.jobIn_mono hc hrun hjob]
      exact fun heq => hk (Option.some.inj heq)
    · exact hrest x hx

/-- A consumed lease was opened once and resolved once before, and every later move is about
another job. -/
theorem Steps.consume_inv {pre post : List (Move ι κ)} {i : ι}
    (run : Steps (pre ++ .consume i :: post) .empty d) :
    ∃ k, d.job i = some k ∧ (leases pre).count i = 1 ∧ pre.count (.resolve i) = 1 ∧
      (∀ m ∈ post, m.jobIn d ≠ some k) ∧ d.latest k = some i ∧ d.status i = some .consumed := by
  obtain ⟨b, hpre, c, hm, hpost⟩ := Steps.append.mp run
  have hc : Steps (pre ++ [.consume i]) .empty c := Steps.snoc.mpr ⟨b, hpre, hm⟩
  cases hm with
  | @consume k _ hjob hlatest hactive hresolved =>
    have hmem : i ∈ leases pre := (known hpre).mem_leases hjob
    obtain ⟨hoff, hfinal⟩ :=
      Steps.off_settled hc hpost (k := k) (i := i) hlatest (by simp [Book.mark])
    exact ⟨k, Steps.job_mono hc hpost hjob, List.count_eq_one_of_mem (known hpre).nodup hmem,
      by rw [(settled hpre).resolved, hresolved]; rfl, hoff, hfinal⟩

end LeaseBook
