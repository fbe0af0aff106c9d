import Etzio.History
import Etzio.LeaseBook

/-!
# The reducer's leases as a lease book

The lease variables of the reducer's loop are a lease book whose jobs are the candidates :
`Represents` reads the five disposition sets as one status per lease. `turn_follows` shows
that every turn makes the book move of its event, or none, and `reduceLoop_follows` that a
run of the loop is a run of the book over the moves of its events.
-/

open CheckedRun LeaseBook

namespace Etzio

variable {P : Primitives}

/-- The book move of an event. -/
def EventV1.leaseMove (e : EventV1) : Option (Move Digest Digest) :=
  match e.payload with
  | .verificationLeaseIssued lease _ _ => some (.issue lease.candidateId lease.leaseId)
  | .verificationLeaseReassigned lease predecessorId _ _ _ =>
    some (.reassign lease.candidateId predecessorId lease.leaseId)
  | .verificationLeaseExpired leaseId => some (.expire leaseId)
  | .verificationLeaseCancelled _ leaseId => some (.cancel leaseId)
  | .verificationArtifactsResolved r => some (.resolve r.verificationLeaseId)
  | .verifierReceiptAdmitted _ _ _ signed _ => some (.consume signed.receipt.leaseId)
  | _ => none

/-- The book moves of a stream. -/
def leaseMoves (events : List EventV1) : List (Move Digest Digest) :=
  events.filterMap EventV1.leaseMove

theorem leaseMoves_snoc (h : List EventV1) (e : EventV1) :
    leaseMoves (h ++ [e]) = leaseMoves h ++ e.leaseMove.toList := by
  cases he : e.leaseMove <;> simp [leaseMoves, List.filterMap_append, he]

/-- The moves open the leases the events create. -/
theorem leaseMove_opened (e : EventV1) :
    e.leaseMove.bind Move.opened =
      e.createdLease?.map fun l => (l.candidateId, l.leaseId) := by
  unfold EventV1.leaseMove EventV1.createdLease?
  split <;> simp_all [Move.opened]

theorem opened_leaseMoves (h : List EventV1) :
    opened (leaseMoves h) = (createdLeases h).map fun l => (l.candidateId, l.leaseId) := by
  simp only [opened, leaseMoves, createdLeases, List.filterMap_filterMap, List.map_filterMap,
    leaseMove_opened]

theorem leases_leaseMoves (h : List EventV1) :
    leases (leaseMoves h) = (createdLeases h).map VerificationLeaseV1.leaseId := by
  simp [leases, opened_leaseMoves]

theorem chain_leaseMoves (c : Digest) (h : List EventV1) :
    chain c (leaseMoves h) =
      ((createdLeases h).filter fun l => l.candidateId = c).map VerificationLeaseV1.leaseId := by
  simp [chain, opened_leaseMoves, List.filter_map, Function.comp_def]

theorem count_resolve_leaseMoves (i : Digest) (h : List EventV1) :
    (leaseMoves h).count (.resolve i) = (resolvedLeases h).count i := by
  induction h with
  | nil => rfl
  | cons e h ih =>
    simp only [leaseMoves, resolvedLeases, List.filterMap_cons] at ih ⊢
    cases hp : e.payload <;>
      simp_all [EventV1.leaseMove, EventV1.resolvedLease?, List.count_cons]

/-- The disposition set of a status. -/
def Reduction.leasesIn (s : Reduction) : Status → Finset Digest
  | .active => s.activeVerificationLeaseIds
  | .expired => s.expiredVerificationLeaseIds
  | .cancelled => s.cancelledVerificationLeaseIds
  | .superseded => s.supersededVerificationLeaseIds
  | .consumed => s.consumedVerificationLeaseIds

/-- The loop's lease variables represent a book. -/
structure Represents (s : Reduction) (b : Book Digest Digest) : Prop where
  status : ∀ st i, i ∈ s.leasesIn st ↔ b.status i = some st
  ids : ∀ i, i ∈ s.verificationLeaseIds ↔ b.status i ≠ none
  job : ∀ i, b.job i = (s.verificationLeasesById.lookup i).map VerificationLeaseV1.candidateId
  keyed : ∀ i l, s.verificationLeasesById.lookup i = some l → l.leaseId = i
  latest : ∀ k, s.latestVerificationLeaseByCandidate.lookup k = b.latest k
  succ : ∀ i, s.verificationLeaseSuccessors.lookup i = b.succ i
  resolved : ∀ i, i ∈ s.resolvedVerificationLeaseIds ↔ b.resolved i = true
  resolutions : ∀ i, i ∈ s.verificationResolutionsByLeaseId ↔ b.resolved i = true

/-! ## The disposition sets -/

/-- Moving a lease from the active set to another one is marking it. -/
theorem leasesIn_mark {s t : Reduction} {b : Book Digest Digest} {i : Digest} {new : Status}
    (hstatus : ∀ st j, j ∈ s.leasesIn st ↔ b.status j = some st)
    (hactive : b.status i = some .active) (hnew : new ≠ .active)
    (hfrom : t.leasesIn .active = (s.leasesIn .active).erase i)
    (hto : t.leasesIn new = insert i (s.leasesIn new))
    (hkeep : ∀ st, st ≠ .active → st ≠ new → t.leasesIn st = s.leasesIn st) (st : Status)
    (j : Digest) : j ∈ t.leasesIn st ↔ (b.mark i new).status j = some st := by
  by_cases hst : st = .active
  · subst hst
    by_cases hj : j = i
    · simp [hfrom, hj, Book.mark, hnew]
    · simp [hfrom, hj, Book.mark, hstatus]
  · by_cases hst' : st = new
    · subst hst'
      by_cases hj : j = i
      · simp [hto, hj, Book.mark]
      · simp [hto, hj, Book.mark, hstatus]
    · rw [hkeep st hst hst', hstatus]
      by_cases hj : j = i
      · simp [hj, Book.mark, hactive, Ne.symm hst, Ne.symm hst']
      · simp [hj, Book.mark]

/-- Adding a fresh lease to the active set is opening it. -/
theorem leasesIn_open {s t : Reduction} {b : Book Digest Digest} {k i : Digest}
    (hstatus : ∀ st j, j ∈ s.leasesIn st ↔ b.status j = some st) (hfresh : b.status i = none)
    (hto : t.leasesIn .active = insert i (s.leasesIn .active))
    (hkeep : ∀ st, st ≠ .active → t.leasesIn st = s.leasesIn st) (st : Status) (j : Digest) :
    j ∈ t.leasesIn st ↔ (b.openLease k i).status j = some st := by
  by_cases hst : st = .active
  · subst hst
    by_cases hj : j = i
    · simp [hto, hj, Book.openLease]
    · simp [hto, hj, Book.openLease, hstatus]
  · rw [hkeep st hst, hstatus]
    by_cases hj : j = i
    · simp [hj, Book.openLease, hfresh, Ne.symm hst]
    · simp [hj, Book.openLease]

/-! ## The simulation -/

/-- Adding a lease opens it in the book. -/
theorem Represents.addLease {s : Reduction} {b : Book Digest Digest} {e : EventV1}
    {lease : VerificationLeaseV1} (hr : Represents s b) (hfresh : b.status lease.leaseId = none) :
    Represents (s.addLease e lease) (b.openLease lease.candidateId lease.leaseId) where
  status := leasesIn_open hr.status hfresh rfl fun st hst => by
    cases st <;> first | rfl | contradiction
  ids i := by
    by_cases hi : i = lease.leaseId
    · simp [Reduction.addLease, Book.openLease, hi]
    · simp [Reduction.addLease, Book.openLease, hi, hr.ids]
  job i := by
    simp only [Reduction.addLease, Book.openLease, Dict.lookup_insert, Function.update_apply,
      hr.job]
    split_ifs <;> simp
  keyed i l hl := by
    simp only [Reduction.addLease, Dict.lookup_insert] at hl
    split_ifs at hl with hi
    · rw [← Option.some.inj hl, hi]
    · exact hr.keyed i l hl
  latest k := by
    simp only [Reduction.addLease, Book.openLease, Dict.lookup_insert, Function.update_apply,
      hr.latest]
  succ := hr.succ
  resolved := hr.resolved
  resolutions := hr.resolutions

/-- A change of one active lease's disposition marks it in the book. -/
theorem Represents.mark {s t : Reduction} {b : Book Digest Digest} {i : Digest} {new : Status}
    (hr : Represents s b) (hactive : b.status i = some .active)
    (hstatus : ∀ st j, j ∈ t.leasesIn st ↔ (b.mark i new).status j = some st)
    (hids : t.verificationLeaseIds = s.verificationLeaseIds)
    (hleases : t.verificationLeasesById = s.verificationLeasesById)
    (hlatest : t.latestVerificationLeaseByCandidate = s.latestVerificationLeaseByCandidate)
    (hsucc : t.verificationLeaseSuccessors = s.verificationLeaseSuccessors)
    (hresolved : t.resolvedVerificationLeaseIds = s.resolvedVerificationLeaseIds)
    (hresolutions : t.verificationResolutionsByLeaseId = s.verificationResolutionsByLeaseId) :
    Represents t (b.mark i new) where
  status := hstatus
  ids j := by
    rw [hids, hr.ids, ne_eq, ne_eq, mark_status_eq_none (by simp [hactive])]
  job j := by rw [hleases]; exact hr.job j
  keyed j l := by rw [hleases]; exact hr.keyed j l
  latest k := by rw [hlatest]; exact hr.latest k
  succ j := by rw [hsucc]; exact hr.succ j
  resolved j := by rw [hresolved]; exact hr.resolved j
  resolutions j := by rw [hresolutions]; exact hr.resolutions j

/-- Superseding the predecessor and linking it to its successor retires it in the book. -/
theorem Represents.retire {s t : Reduction} {b : Book Digest Digest} {e : EventV1}
    {predecessor : VerificationLeaseV1} (hr : Represents s b)
    (hsuper : Supersession s e predecessor t) (new : Digest) :
    Represents { t with
        verificationLeaseSuccessors :=
          t.verificationLeaseSuccessors.insert predecessor.leaseId new
        verificationLeaseReassignmentEvents := t.verificationLeaseReassignmentEvents ++ [e] }
      (b.retire predecessor.leaseId new) := by
  have hsucc : ∀ i, (s.verificationLeaseSuccessors.insert predecessor.leaseId new).lookup i =
      (b.retire predecessor.leaseId new).succ i := by
    intro i
    rw [Dict.lookup_insert]
    simp only [Book.retire, Function.update_apply, hr.succ]
  cases hsuper with
  | active hactive htime =>
    have hstatus := (hr.status .active _).mp hactive
    have hmark : Represents { s with
        activeVerificationLeaseIds := s.activeVerificationLeaseIds.erase predecessor.leaseId
        supersededVerificationLeaseIds :=
          insert predecessor.leaseId s.supersededVerificationLeaseIds }
        (b.mark predecessor.leaseId .superseded) := by
      refine hr.mark hstatus (leasesIn_mark hr.status hstatus (by simp) rfl rfl ?_) rfl rfl rfl
        rfl rfl rfl
      intro st h1 h2
      cases st <;> first | rfl | contradiction
    have hretire : (b.retire predecessor.leaseId new).status =
        (b.mark predecessor.leaseId .superseded).status := by simp [Book.retire, Book.mark, hstatus]
    exact ⟨fun st i => hretire ▸ hmark.status st i, fun i => hretire ▸ hmark.ids i, hr.job,
      hr.keyed, hr.latest, hsucc, hr.resolved, hr.resolutions⟩
  | recovered hactive hdisposed =>
    have hstatus : b.status predecessor.leaseId ≠ some .active := fun h =>
      hactive ((hr.status .active _).mpr h)
    have hretire : (b.retire predecessor.leaseId new).status = b.status := by
      simp [Book.retire, hstatus]
    exact ⟨fun st i => hretire ▸ hr.status st i, fun i => hretire ▸ hr.ids i, hr.job, hr.keyed,
      hr.latest, hsucc, hr.resolved, hr.resolutions⟩

/-- The dispositions from which a predecessor is reassigned. -/
theorem Represents.superseded_status {s t : Reduction} {b : Book Digest Digest} {e : EventV1}
    {predecessor : VerificationLeaseV1} (hr : Represents s b)
    (hsuper : Supersession s e predecessor t) :
    b.status predecessor.leaseId = some .active ∨ b.status predecessor.leaseId = some .expired ∨
      b.status predecessor.leaseId = some .cancelled := by
  cases hsuper with
  | active hactive htime => exact Or.inl ((hr.status .active _).mp hactive)
  | recovered hactive hdisposed =>
    rcases hdisposed with h | h
    · exact Or.inr (Or.inl ((hr.status .expired _).mp h))
    · exact Or.inr (Or.inr ((hr.status .cancelled _).mp h))

/-- The active latest lease that an expiry, a cancellation, a resolution or a receipt is
about, in the book. -/
theorem Represents.activeLatest {s : Reduction} {b : Book Digest Digest} {i : Digest}
    {lease : VerificationLeaseV1} (hr : Represents s b)
    (hlease : s.verificationLeasesById.lookup i = some lease)
    (hactive : lease.leaseId ∈ s.activeVerificationLeaseIds)
    (hlatest : s.latestVerificationLeaseByCandidate.lookup lease.candidateId =
      some lease.leaseId) :
    lease.leaseId = i ∧ b.job i = some lease.candidateId ∧
      b.latest lease.candidateId = some i ∧ b.status i = some .active := by
  have hid := hr.keyed i lease hlease
  refine ⟨hid, by simp [hr.job, hlease], ?_, ?_⟩
  · rw [← hr.latest, hlatest, hid]
  · exact hid ▸ (hr.status .active _).mp hactive

theorem Represents.fresh {s : Reduction} {b : Book Digest Digest} {i : Digest}
    (hr : Represents s b) (hi : i ∉ s.verificationLeaseIds) : b.status i = none := by
  by_contra hne
  exact hi ((hr.ids i).mpr hne)

/-- An event with a move makes it. -/
theorem steps_of_move {e : EventV1} {m : Move Digest Digest} {b d : Book Digest Digest}
    (hm : e.leaseMove = some m) (hs : LeaseBook.Step b m d) : Steps e.leaseMove.toList b d := by
  simpa [hm, Steps] using hs

/-- The turn of an event makes its book move, or leaves the book as it is. -/
theorem turn_follows {s t : Reduction} {b : Book Digest Digest} {e : EventV1}
    (hr : Represents s b) (ht : Turn s e t) :
    ∃ d, Steps e.leaseMove.toList b d ∧ Represents t d := by
  cases ht with
  | leaseIssued hp hlease hnever =>
    have hfresh := hr.fresh hlease.hfresh
    have hlatest := hr.latest _ ▸ AList.lookup_eq_none.mpr hnever
    exact ⟨_, steps_of_move (by simp only [EventV1.leaseMove, hp]) (.issue hfresh hlatest),
      hr.addLease hfresh⟩
  | leaseExpired hp hlease hlatest hactive htime =>
    obtain ⟨rfl, hjob, hlatest, hstatus⟩ := hr.activeLatest hlease hactive hlatest
    refine ⟨_, steps_of_move (by simp only [EventV1.leaseMove, hp])
      (.expire hjob hlatest hstatus), ?_⟩
    refine hr.mark hstatus (leasesIn_mark hr.status hstatus (by simp) rfl rfl ?_) rfl rfl rfl rfl
      rfl rfl
    intro st h1 h2
    cases st <;> first | rfl | contradiction
  | leaseCancelled hp hlease hlatest hactive hwindow =>
    obtain ⟨rfl, hjob, hlatest, hstatus⟩ := hr.activeLatest hlease hactive hlatest
    refine ⟨_, steps_of_move (by simp only [EventV1.leaseMove, hp])
      (.cancel hjob hlatest hstatus), ?_⟩
    refine hr.mark hstatus (leasesIn_mark hr.status hstatus (by simp) rfl rfl ?_) rfl rfl rfl rfl
      rfl rfl
    intro st h1 h2
    cases st <;> first | rfl | contradiction
  | @leaseReassigned lease predecessorId _ _ _ predecessor _ _ _ u hp hpredecessor hlatest hlast
      hsame hlease hverifier hsuper =>
    obtain rfl := hr.keyed _ _ hpredecessor
    have hcandidate : lease.candidateId = predecessor.candidateId :=
      congrArg LeaseBindings.candidateId hsame
    have hfresh := hr.fresh hlease.hfresh
    have hstatus := hr.superseded_status hsuper
    have hknown : b.status predecessor.leaseId ≠ none := by
      rcases hstatus with h | h | h <;> simp [h]
    refine ⟨_, steps_of_move (by simp only [EventV1.leaseMove, hp])
      (.reassign hfresh ?_ ?_ hstatus), (hr.retire hsuper lease.leaseId).addLease
      ((retire_status_eq_none hknown).mpr hfresh)⟩
    · rw [← hr.latest, hcandidate, hlatest]
    · rw [← hr.succ]
      exact AList.lookup_eq_none.mpr hlast
  | @artifactsResolved r lease hp hlease hactive hlatest hnew hcandidate hresolved hwindow =>
    obtain ⟨-, hjob, hlatest, hstatus⟩ := hr.activeLatest hlease hactive hlatest
    have hfresh : b.resolved r.verificationLeaseId = false := by
      rw [hr.resolved] at hnew
      simpa using hnew
    refine ⟨_, steps_of_move (by simp only [EventV1.leaseMove, hp])
      (.resolve hjob hlatest hstatus hfresh), ?_⟩
    refine { hr with resolved := fun i => ?_, resolutions := fun i => ?_ }
    · by_cases hi : i = r.verificationLeaseId
      · simp [hi]
      · simp [hi, hr.resolved]
    · by_cases hi : i = r.verificationLeaseId
      · simp [hi]
      · simp [hi, hr.resolutions]
  | @receiptAdmitted _ _ _ signed _ _ _ hp hlease hnew hactive hlatest hresolution hnames
      hcandidate hwindow =>
    obtain ⟨-, hjob, hlatest, hstatus⟩ := hr.activeLatest hlease hactive hlatest
    have hmem : signed.receipt.leaseId ∈ s.verificationResolutionsByLeaseId :=
      AList.lookup_isSome.mp (by rw [hresolution]; rfl)
    have hresolved := (hr.resolutions _).mp hmem
    refine ⟨_, steps_of_move (by simp only [EventV1.leaseMove, hp])
      (.consume hjob hlatest hstatus hresolved), ?_⟩
    refine hr.mark hstatus (leasesIn_mark hr.status hstatus (by simp) rfl rfl ?_) rfl rfl rfl rfl
      rfl rfl
    intro st h1 h2
    cases st <;> first | rfl | contradiction
  | stopped hp =>
    have hm : e.leaseMove = none := by
      rcases hp with hp | hp | hp | hp <;> simp only [EventV1.leaseMove, hp]
    exact ⟨b, by simp [hm, Steps], { hr with }⟩
  | _ => exact ⟨b, by simp [EventV1.leaseMove, *, Steps], { hr with }⟩

/-- A run of the loop is a run of the book over the moves of its events. -/
theorem reduceLoop_follows {first : EventV1} {events : List EventV1} {s : Reduction}
    (run : reduceLoop P first events = .ok s) :
    ∃ b, Steps (leaseMoves events) .empty b ∧ Represents s b := by
  refine foldlM_invariant (fun h s => ∃ b, Steps (leaseMoves h) .empty b ∧ Represents s b)
    ⟨.empty, rfl, ?_⟩ ?_ run
  · refine ⟨fun st i => ?_, ?_, ?_, ?_, ?_, ?_, ?_, ?_⟩
    · cases st <;> simp [Reduction.initial, Reduction.leasesIn, Book.empty]
    all_goals simp [Reduction.initial, Book.empty]
  · rintro h s e s' - ⟨b, hb, hr⟩ hstep
    obtain ⟨-, phase, t, -, hturn, rfl⟩ := step_turn hstep
    obtain ⟨d, hd, hrt⟩ := turn_follows hr hturn
    exact ⟨d, by rw [leaseMoves_snoc]; exact Steps.append.mpr ⟨b, hb, hd⟩, { hrt with }⟩

end Etzio
