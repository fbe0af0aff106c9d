import Etzio.FinalizingFacade
import Etzio.StoreGovernance
import Etzio.StoreRuns

/-!
# Histories of blocked observations

The rule that extends a history of blocked observations is written twice.
`append_blocked_observation_v1` extends the history of one transition, a tuple. The store
keeps the rows of all transitions in one table, under its keys and triggers, and applies
the rule inside a transaction.

`observation_histories_agree` : in every reachable state, for every observation of the
current lineage, the store accepts what the function accepts and leaves the history the
function returns, provided that the instance is not sealed and the record has room.
-/

open CheckedRun Rows

namespace Etzio

/-- `BlockedFinalityObservationV1.transition_key`. -/
def BlockedFinalityObservationV1.transitionKey (o : BlockedFinalityObservationV1) :
    String × Digest :=
  (o.serviceInstanceId, o.eventDigest)

/-- The ordinals of a history are a strict sequence. -/
def StrictOrdinals (retained : List BlockedFinalityObservationV1) : Prop :=
  retained.Pairwise fun a b => a.attemptOrdinal < b.attemptOrdinal

instance (retained : List BlockedFinalityObservationV1) : Decidable (StrictOrdinals retained) :=
  inferInstanceAs (Decidable (List.Pairwise _ _))

/-- `append_blocked_observation_v1`. -/
def appendBlockedObservationV1 (retained : List BlockedFinalityObservationV1)
    (observation : BlockedFinalityObservationV1) :
    Except IntegrityError (List BlockedFinalityObservationV1) := do
  refuseIf (maxBlockedObservationsV1 ≤ retained.length)
    ⟨"blocked_observation_limit_exceeded",
      "retained blocked observations exceed their bounded history"⟩
  match retained with
  | [] => return [observation]
  | first :: rest => do
    refuseIf (observation.transitionKey ≠ first.transitionKey)
      ⟨"blocked_transition_mismatch",
        "a blocked observation cannot join another transition's history"⟩
    refuseIf (¬StrictOrdinals (first :: rest))
      ⟨"blocked_observation_equivocation",
        "retained blocked observations are not a strict ordinal sequence"⟩
    match (first :: rest).find? fun entry => entry.attemptOrdinal = observation.attemptOrdinal with
    | some entry => do
      refuseIf (entry ≠ observation)
        ⟨"blocked_observation_equivocation",
          "one attempt ordinal cannot carry two different observations"⟩
      return first :: rest
    | none => do
      refuseIf (observation.attemptOrdinal ≤
          ((first :: rest).getLast (List.cons_ne_nil first rest)).attemptOrdinal)
        ⟨"blocked_observation_ordinal_regression",
          "a blocked observation ordinal cannot regress"⟩
      return first :: rest ++ [observation]

/-! ## The rule of the function -/

section Rule

variable {retained history : List BlockedFinalityObservationV1}
  {o : BlockedFinalityObservationV1}

/-- In a strict history an ordinal has one observation. -/
theorem StrictOrdinals.eq_of_ordinal (h : StrictOrdinals retained)
    {x y : BlockedFinalityObservationV1} (hx : x ∈ retained) (hy : y ∈ retained)
    (hxy : x.attemptOrdinal = y.attemptOrdinal) : x = y := by
  have hnodup : (retained.map BlockedFinalityObservationV1.attemptOrdinal).Nodup :=
    List.pairwise_map.mpr (h.imp fun hlt => hlt.ne)
  exact List.inj_on_of_nodup_map hnodup hx hy hxy

/-- The last ordinal of a strict history is the greatest. -/
theorem StrictOrdinals.last_lt_iff {first : BlockedFinalityObservationV1}
    {rest : List BlockedFinalityObservationV1} (h : StrictOrdinals (first :: rest)) {n : ℕ} :
    ((first :: rest).getLast (List.cons_ne_nil first rest)).attemptOrdinal < n ↔
      ∀ x ∈ first :: rest, x.attemptOrdinal < n := by
  constructor
  · intro hlast x hx
    rw [← List.dropLast_append_getLast (List.cons_ne_nil first rest), List.mem_append,
      List.mem_singleton] at hx
    rcases hx with hx | rfl
    · rw [StrictOrdinals, ← List.dropLast_append_getLast (List.cons_ne_nil first rest),
        List.pairwise_append] at h
      exact (h.2.2 x hx _ (List.mem_singleton.mpr rfl)).trans hlast
    · exact hlast
  · exact fun hall => hall _ (List.getLast_mem _)

/-- What the function accepts : an observation that is retained already, or one of a later
attempt of the same transition. -/
theorem appendBlockedObservation_eq_ok :
    appendBlockedObservationV1 retained o = .ok history ↔
      retained.length < maxBlockedObservationsV1 ∧
        (∀ x ∈ retained.head?, o.transitionKey = x.transitionKey) ∧ StrictOrdinals retained ∧
        ((o ∈ retained ∧ history = retained) ∨
          ((∀ x ∈ retained, x.attemptOrdinal < o.attemptOrdinal) ∧ history = retained ++ [o])) := by
  unfold appendBlockedObservationV1
  rw [unit_bind_eq_ok, refuseIf_eq_ok, not_le]
  refine and_congr_right fun _ => ?_
  cases retained with
  | nil => simp [StrictOrdinals, pure, Except.pure, eq_comm]
  | cons first rest =>
    dsimp only
    rw [unit_bind_eq_ok, refuseIf_eq_ok, not_not, unit_bind_eq_ok, refuseIf_eq_ok, not_not]
    simp only [List.head?_cons, Option.mem_def, Option.some.injEq, forall_eq']
    refine and_congr_right fun _ => and_congr_right fun hstrict => ?_
    cases hfind : (first :: rest).find? fun x => x.attemptOrdinal = o.attemptOrdinal with
    | some entry =>
      have hmem := List.mem_of_find?_eq_some hfind
      have hord : entry.attemptOrdinal = o.attemptOrdinal := by simpa using List.find?_some hfind
      have hnot : ¬∀ x ∈ first :: rest, x.attemptOrdinal < o.attemptOrdinal := by
        intro hall
        exact (hall entry hmem).ne hord
      have heq : entry = o ↔ o ∈ first :: rest :=
        ⟨fun h => h ▸ hmem, fun h => hstrict.eq_of_ordinal hmem h hord⟩
      dsimp only
      rw [unit_bind_eq_ok, refuseIf_eq_ok, not_not, heq]
      simp only [hnot, false_and, or_false, pure, Except.pure, Except.ok.injEq]
      exact and_congr_right fun _ => eq_comm
    | none =>
      have hnone : ∀ x ∈ first :: rest, x.attemptOrdinal ≠ o.attemptOrdinal := by
        simpa using List.find?_eq_none.mp hfind
      have hnot : o ∉ first :: rest := fun h => hnone o h rfl
      dsimp only
      rw [unit_bind_eq_ok, refuseIf_eq_ok, not_le, hstrict.last_lt_iff]
      simp only [hnot, false_and, false_or, pure, Except.pure, Except.ok.injEq]
      exact and_congr_right fun _ => eq_comm

/-- The histories the function builds. -/
inductive Built : List BlockedFinalityObservationV1 → Prop
  | nil : Built []
  | append {retained history : List BlockedFinalityObservationV1}
      {o : BlockedFinalityObservationV1} (h : Built retained)
      (ha : appendBlockedObservationV1 retained o = .ok history) : Built history

/-- A built history is strict and of one transition. -/
theorem Built.strict (h : Built history) : StrictOrdinals history ∧
    ∀ x ∈ history, ∀ y ∈ history.head?, x.transitionKey = y.transitionKey := by
  induction h with
  | nil => simp [StrictOrdinals]
  | @append retained history o _ ha ih =>
    obtain ⟨-, hkey, -, ⟨-, rfl⟩ | ⟨hlater, rfl⟩⟩ := appendBlockedObservation_eq_ok.mp ha
    · exact ih
    · refine ⟨List.pairwise_append.mpr ⟨ih.1, List.pairwise_singleton _ _, ?_⟩, ?_⟩
      · intro x hx y hy
        rw [List.mem_singleton.mp hy]
        exact hlater x hx
      · cases retained with
        | nil => simp
        | cons first rest =>
          intro x hx y hy
          rw [List.cons_append, List.head?_cons] at hy
          rcases List.mem_append.mp hx with hx | hx
          · exact ih.2 x hx y hy
          · rw [List.mem_singleton.mp hx]
            exact hkey y hy

/-- A retained observation is accepted again while the history has room. -/
theorem Built.append_again (h : Built history) (hlt : history.length < maxBlockedObservationsV1)
    (ho : o ∈ history) : appendBlockedObservationV1 history o = .ok history :=
  appendBlockedObservation_eq_ok.mpr ⟨hlt, fun y hy => h.strict.2 o ho y hy, h.strict.1,
    .inl ⟨ho, rfl⟩⟩

end Rule

/-! ## The rule of the store -/

section Store

variable {E : Env} {t : E.Db} {d : Digest} {cap : ℕ} {o : BlockedFinalityObservationV1}
  {profile : BlockedFinalityRecoveryProfileV1} {l : IntegrityLineageV1}

/-- The observation names the current lineage of its transition, under the enrolled
profile. -/
structure BindsCurrent (t : E.Db) (o : BlockedFinalityObservationV1)
    (profile : BlockedFinalityRecoveryProfileV1) (l : IntegrityLineageV1) : Prop where
  enrolled : requireEnrolledRecoveryProfile E t = .ok profile
  lineage : loadIntegrityLineage E t o.eventDigest = .ok (some l)
  current : validateBlockedObservationLineageV1 E.integrity E.recovery profile o l true = .ok ()

/-- In an accepted store the history of a transition is the records of its rows. -/
theorem BlockedHistory.blockedObservations_eq (h : BlockedHistory t profile)
    (hl : loadIntegrityLineage E t d = .ok (some l)) :
    blockedObservations E t d = .ok ((t.observationRows d).map ObservationRow.record) ∧
      ∀ r ∈ t.observationRows d, checkObservationRow E profile l d r = .ok () := by
  have hchecked : ∀ r ∈ t.observationRows d, checkObservationRow E profile l d r = .ok () := by
    intro r hr
    obtain ⟨hr', hd⟩ := mem_observationRows.mp hr
    obtain ⟨os, hos⟩ := h.observations r hr'
    rw [hd] at hos
    exact ((blockedObservations_eq_ok h.enrolled hl).mp hos).1 r hr
  exact ⟨(blockedObservations_eq_ok h.enrolled hl).mpr ⟨hchecked, rfl⟩, hchecked⟩

/-- The columns of a retained observation are those of its record. -/
theorem BlockedHistory.observation_index (h : BlockedHistory t profile) {r : ObservationRow}
    (hr : r ∈ t.observations) : r.record.eventDigest = r.eventDigest := by
  obtain ⟨os, hos⟩ := h.observations r hr
  have hmem : r ∈ t.observationRows r.eventDigest := mem_observationRows.mpr ⟨hr, rfl⟩
  unfold blockedObservations at hos
  rw [if_neg (List.ne_nil_of_mem hmem)] at hos
  obtain ⟨profile', -, hos⟩ := bind_eq_ok.mp hos
  obtain ⟨x, -, hos⟩ := bind_eq_ok.mp hos
  obtain ⟨y, -, hos⟩ := orRefuse_bind_eq_ok.mp hos
  obtain ⟨hchecked, -⟩ := unit_bind_eq_ok.mp hos
  exact (checkObservationRow_index (forM_eq_ok.mp hchecked r hmem)).1

/-- The ordinals of the rows of a transition are strict. -/
theorem strictOrdinals_rows (hk : t.Keys)
    (hchecked : ∀ r ∈ t.observationRows d, checkObservationRow E profile l d r = .ok ()) :
    StrictOrdinals ((t.observationRows d).map ObservationRow.record) := by
  have hnodup : ((t.observationRows d).map ObservationRow.attemptOrdinal).Nodup := by
    refine List.Nodup.map_on ?_ ((orderBy_perm.nodup_iff).mpr ?_)
    · intro x hx y hy hxy
      obtain ⟨hx, hxd⟩ := mem_observationRows.mp hx
      obtain ⟨hy, hyd⟩ := mem_observationRows.mp hy
      exact List.inj_on_of_nodup_map hk.observationAttempt hx hy
        (Prod.ext (hxd.trans hyd.symm) hxy)
    · exact (List.Nodup.of_map _ hk.observationAttempt).filter _
  refine List.pairwise_map.mpr ?_
  have hlt := (orderBy_pairwise (f := ObservationRow.attemptOrdinal)).and
    (List.pairwise_map.mp hnodup)
  refine List.Pairwise.imp_of_mem ?_ hlt
  intro x y hx hy hxy
  rw [(checkObservationRow_index (hchecked x hx)).2.1,
    (checkObservationRow_index (hchecked y hy)).2.1]
  exact lt_of_le_of_ne hxy.1 hxy.2

/-- The retained observation of an attempt, by its row. -/
theorem attempt_eq_some (hk : t.Keys) {n : ℕ} {r : ObservationRow} :
    t.attempt d n = some r ↔ r ∈ t.observationRows d ∧ r.attemptOrdinal = n := by
  rw [Tables.attempt, findBy_eq_some hk.observationAttempt, mem_observationRows, Prod.mk.injEq,
    and_assoc]

/-- The observations of one transition under one profile have one transition key. -/
theorem transitionKey_eq {x : BlockedFinalityObservationV1} {current : Bool}
    (hx : validateBlockedObservationLineageV1 E.integrity E.recovery profile x l current =
      .ok ()) : x.transitionKey = (profile.serviceInstanceId, l.pending.eventDigest) := by
  unfold validateBlockedObservationLineageV1 at hx
  obtain ⟨hbinds, -⟩ := unit_bind_eq_ok.mp hx
  rw [refuseIf_eq_ok, not_not] at hbinds
  obtain ⟨-, -, hservice, -, -, -, -, hevent, -⟩ := hbinds
  rw [BlockedFinalityObservationV1.transitionKey, hservice, hevent]

/-- An observation of the current phase names an open transition. -/
theorem BindsCurrent.open (h : BindsCurrent t o profile l) : ¬t.IsFinalized o.eventDigest := by
  obtain ⟨r, hr⟩ := loadIntegrityLineage_some h.lineage
  intro hfinalized
  have hne := hr.finalization_ne_none.mpr hfinalized
  have hv := h.current
  unfold validateBlockedObservationLineageV1 at hv
  obtain ⟨-, hv⟩ := unit_bind_eq_ok.mp hv
  obtain ⟨-, hv⟩ := unit_bind_eq_ok.mp hv
  have hphase : o.unresolvedPhase.lineagePhase = l.phase := by simpa using hv
  rw [IntegrityLineageV1.phase, if_pos (Option.isSome_iff_ne_none.mpr hne)] at hphase
  cases ho : o.unresolvedPhase <;> simp [ho, BlockablePhase.lineagePhase] at hphase

/-- The tables with one more observation. -/
def Tables.observe {V Q : Type} (t : Tables V Q) (o : BlockedFinalityObservationV1) :
    Tables V Q :=
  { t with observations := t.observations ++
    [⟨o.eventDigest, o.attemptOrdinal, o.observationId, o.unresolvedPhase, o⟩] }

theorem BindsCurrent.foreignKeys (h : BindsCurrent t o profile l)
    (hfk : t.ForeignKeys E.vaultForeignKeys) :
    (t.observe o).ForeignKeys E.vaultForeignKeys := by
  refine { hfk with observation := fun r hr => ?_, decision := fun r hr => ?_ }
  · rcases List.mem_append.mp hr with hr | hr
    · exact hfk.observation r hr
    · obtain ⟨p, hp⟩ := loadIntegrityLineage_some h.lineage
      rw [List.mem_singleton.mp hr]
      exact ⟨p, mem_of_findBy hp.row, key_of_findBy hp.row⟩
  · obtain ⟨x, hx, hid⟩ := hfk.decision r hr
    exact ⟨x, List.mem_append_left _ hx, hid⟩

/-- The triggers of the table refuse a fresh observation only when the instance is sealed. -/
theorem BindsCurrent.insertObservation_eq (h : BindsCurrent t o profile l)
    (hfresh : ¬∃ r ∈ t.observations, r.observationId = o.observationId ∨
      (r.eventDigest, r.attemptOrdinal) = (o.eventDigest, o.attemptOrdinal)) :
    insertObservation E t ⟨o.eventDigest, o.attemptOrdinal, o.observationId, o.unresolvedPhase,
        o⟩ =
      if t.Sealed then .error "a sealed instance admits no further blocked observation"
      else .ok (t.observe o) := by
  unfold insertObservation
  rw [refuseIf_bind_of_not h.open]
  split_ifs with hsealed
  · rw [refuseIf_bind_of hsealed]
  · rw [refuseIf_bind_of_not hsealed, refuseIf_bind_of_not hfresh]
    rfl

/-- What the store accepts of an observation of the current lineage : one that is retained
already, or one of a later attempt, if the instance is not sealed and the record has room.
Two observations of one identity are one observation. -/
theorem retainBlockedObservation_eq_ok (hk : t.Keys) (hfk : t.ForeignKeys E.vaultForeignKeys)
    (hb : BlockedHistory t profile) (h : BindsCurrent t o profile l)
    (hids : ∀ r ∈ t.observations, r.observationId = o.observationId → r.record = o)
    {c : Commit E × BlockedFinalityObservationV1} :
    retainBlockedFinalityObservation E cap t o = .ok c ↔
      (o ∈ (t.observationRows o.eventDigest).map ObservationRow.record ∧ c = (.unchanged, o)) ∨
      ((∀ x ∈ (t.observationRows o.eventDigest).map ObservationRow.record,
          x.attemptOrdinal < o.attemptOrdinal) ∧ ¬t.Sealed ∧
        logicalEvidenceStorageUsed E t + E.recovery.observationBytes o ≤ cap ∧
        c = (.wrote (t.observe o) false, o)) := by
  obtain ⟨-, hchecked⟩ := hb.blockedObservations_eq h.lineage
  have hindex := fun r hr => checkObservationRow_index (hchecked r hr)
  unfold retainBlockedFinalityObservation
  rw [bind_of_ok h.enrolled]
  cases hat : t.attempt o.eventDigest o.attemptOrdinal with
  | some r =>
    obtain ⟨hr, hord⟩ := (attempt_eq_some hk).mp hat
    have hmem : o ∈ (t.observationRows o.eventDigest).map ObservationRow.record ↔ r.record = o := by
      refine ⟨fun ho => ?_, fun ho => List.mem_map.mpr ⟨r, hr, ho⟩⟩
      refine (strictOrdinals_rows hk hchecked).eq_of_ordinal (List.mem_map_of_mem hr) ho ?_
      rw [(hindex r hr).2.1, hord]
    have hnot : ¬∀ x ∈ (t.observationRows o.eventDigest).map ObservationRow.record,
        x.attemptOrdinal < o.attemptOrdinal := by
      intro hall
      refine (hall r.record (List.mem_map_of_mem hr)).ne ?_
      rw [(hindex r hr).2.1, hord]
    have hsame : ¬(r.observationId ≠ o.observationId ∨ r.record ≠ o) ↔ r.record = o := by
      rw [not_or, not_not, not_not]
      refine ⟨And.right, fun ho => ⟨?_, ho⟩⟩
      rw [← (hindex r hr).2.2.1, ho]
    dsimp only
    rw [unit_bind_eq_ok, refuseIf_eq_ok, hsame, hmem]
    simp only [hnot, false_and, or_false, pure, Except.pure, Except.ok.injEq]
    exact and_congr_right fun _ => eq_comm
  | none =>
    have hnone : ∀ r ∈ t.observations, r.eventDigest = o.eventDigest →
        r.attemptOrdinal ≠ o.attemptOrdinal := by
      intro r hr hd hord
      exact Rows.findBy_eq_none.mp hat r hr (Prod.ext hd hord)
    have hmem : o ∉ (t.observationRows o.eventDigest).map ObservationRow.record := by
      intro ho
      obtain ⟨r, hr, rfl⟩ := List.mem_map.mp ho
      obtain ⟨hr', hd⟩ := mem_observationRows.mp hr
      exact hnone r hr' hd (hindex r hr).2.1.symm
    have hlater : ¬(∃ r ∈ t.observations, r.eventDigest = o.eventDigest ∧
        o.attemptOrdinal ≤ r.attemptOrdinal) ↔
          ∀ x ∈ (t.observationRows o.eventDigest).map ObservationRow.record,
            x.attemptOrdinal < o.attemptOrdinal := by
      push Not
      constructor
      · intro hall x hx
        obtain ⟨r, hr, rfl⟩ := List.mem_map.mp hx
        obtain ⟨hr', hd⟩ := mem_observationRows.mp hr
        rw [(hindex r hr).2.1]
        exact hall r hr' hd
      · intro hall r hr hd
        have hr' := mem_observationRows.mpr ⟨hr, hd⟩
        rw [← (hindex r hr').2.1]
        exact hall r.record (List.mem_map_of_mem hr')
    have hfresh : ¬∃ r ∈ t.observations, r.observationId = o.observationId ∨
        (r.eventDigest, r.attemptOrdinal) = (o.eventDigest, o.attemptOrdinal) := by
      rintro ⟨r, hr, hid | hkey⟩
      · have hd : r.eventDigest = o.eventDigest := by
          rw [← hb.observation_index hr, hids r hr hid]
        exact hmem (List.mem_map.mpr ⟨r, mem_observationRows.mpr ⟨hr, hd⟩, hids r hr hid⟩)
      · obtain ⟨hd, hord⟩ := Prod.mk.injEq _ _ _ _ ▸ hkey
        exact hnone r hr hd hord
    dsimp only
    rw [bind_of_ok h.lineage, orRefuse_some_bind, unit_bind_eq_ok, mapError_eq_ok, unit_bind_eq_ok,
      refuseIf_eq_ok, hlater, unit_bind_eq_ok, refuseIf_eq_ok, not_lt]
    simp only [h.current, true_and, hmem, false_and, false_or]
    refine and_congr_right fun _ => ?_
    have hinsert := h.insertObservation_eq hfresh
    by_cases hsealed : t.Sealed
    · rw [hinsert, if_pos hsealed]
      simp [hsealed, Except.mapError, bind, Except.bind]
    · rw [hinsert, if_neg hsealed, bind_of_ok (mapError_eq_ok.mpr rfl),
        bind_of_ok (commit_eq_ok.mpr ⟨h.foreignKeys hfk, rfl⟩)]
      simp [hsealed, pure, Except.pure, eq_comm]

/-- The history of a transition after the store took a later observation of it. -/
theorem observationRows_observe
    (hlater : ∀ r ∈ t.observationRows o.eventDigest, r.attemptOrdinal < o.attemptOrdinal) :
    (t.observe o).observationRows o.eventDigest = t.observationRows o.eventDigest ++
      [⟨o.eventDigest, o.attemptOrdinal, o.observationId, o.unresolvedPhase, o⟩] := by
  unfold Tables.observe Tables.observationRows
  rw [List.filter_append]
  simp only [List.filter_cons, List.filter_nil, decide_true, if_true]
  refine orderBy_snoc fun r hr => (hlater r ?_).le
  rwa [Tables.observationRows, mem_orderBy]

end Store

/-! ## The two rules -/

section Agreement

variable {E : Env} {s : Sys E} {i : ℕ} {o : BlockedFinalityObservationV1}
  {profile : BlockedFinalityRecoveryProfileV1} {l : IntegrityLineageV1}
  {history history' : List BlockedFinalityObservationV1}

/-- The tables after a commit. -/
def Commit.tables (c : Commit E) (t : E.Db) : E.Db :=
  match c with
  | .unchanged => t
  | .wrote t' _ => t'

/-- What an uninterrupted operation returns, and the tables it leaves. -/
theorem Sys.perform_eq_ok {ρ : Type} {x : Txn E ρ} {r : ρ} {t : E.Db} :
    (s.perform i x).1 = .ok r ∧ (s.perform i x).2.tables = t ↔ x.precheck E = .ok () ∧
      ∃ c, transact E s.tables (s.conns i) x = .ok (c, r) ∧ c.tables s.tables = t := by
  unfold Sys.perform
  cases x.precheck E with
  | error e => simp
  | ok u =>
    dsimp only
    rcases transact E s.tables (s.conns i) x with e | ⟨_ | ⟨t', published⟩, y⟩
    · simp
    · simp [Commit.tables, Sys.validated]
    · simp [Commit.tables]

/-- In a reachable state that enrolled a recovery profile a transaction is its body. -/
theorem Sys.Reachable.transact_eq {ρ : Type} {x : Txn E ρ} (h : s.Reachable)
    (henr : requireEnrolledRecoveryProfile E s.tables = .ok profile) :
    transact E s.tables (s.conns i) x = x.body E (s.conns i).maxVaultBytes s.tables := by
  obtain ⟨-, p, hp⟩ := requireEnrolledRecoveryProfile_spec henr
  have hacc : validateIntegrityStateUncached E s.tables = .ok () :=
    (accepted_modeled h.cacheSound.keys hp).mpr (h.modeledAccepted hp)
  rw [transact, h.cacheSound.authenticate_eq, bind_of_ok hacc]

/-- The store and the function agree on one observation : the store accepts it exactly when
the function does and it is retained already or the instance is not sealed and has room for
it, and it leaves the history the function returns. -/
structure RulesAgree (s : Sys E) (i : ℕ) (o : BlockedFinalityObservationV1)
    (history : List BlockedFinalityObservationV1) : Prop where
  accepts : (∃ r, (s.perform i (.retainBlockedFinalityObservation o)).1 = .ok r) ↔
    (∃ history', appendBlockedObservationV1 history o = .ok history') ∧
      E.recovery.observationBytes o ≤ maxIntegrityRecordBytesV1 ∧
      (o ∈ history ∨ ¬s.tables.Sealed ∧ logicalEvidenceStorageUsed E s.tables +
        E.recovery.observationBytes o ≤ (s.conns i).maxVaultBytes)
  returns : ∀ {r history'}, (s.perform i (.retainBlockedFinalityObservation o)).1 = .ok r →
    appendBlockedObservationV1 history o = .ok history' → r = o ∧
      blockedObservations E (s.perform i (.retainBlockedFinalityObservation o)).2.tables
        o.eventDigest = .ok history'

/-- An observation of the current lineage joins the history of its transition. -/
theorem BindsCurrent.joins (h : BindsCurrent s.tables o profile l)
    (hchecked : ∀ r ∈ s.tables.observationRows o.eventDigest,
      checkObservationRow E profile l o.eventDigest r = .ok ()) :
    ∀ x ∈ ((s.tables.observationRows o.eventDigest).map ObservationRow.record).head?,
      o.transitionKey = x.transitionKey := by
  intro x hx
  obtain ⟨r, hr, rfl⟩ := List.mem_map.mp (List.mem_of_head? hx)
  have hv := hchecked r hr
  unfold checkObservationRow at hv
  obtain ⟨-, hv⟩ := unit_bind_eq_ok.mp hv
  rw [mapError_eq_ok] at hv
  rw [transitionKey_eq h.current, transitionKey_eq hv]

/-- The two rules agree below the length limit of the function. -/
theorem BindsCurrent.rulesAgree (hs : s.Reachable) (h : BindsCurrent s.tables o profile l)
    (hids : ∀ r ∈ s.tables.observations, r.observationId = o.observationId → r.record = o)
    (hlt : ((s.tables.observationRows o.eventDigest).map ObservationRow.record).length <
      maxBlockedObservationsV1) :
    RulesAgree s i o ((s.tables.observationRows o.eventDigest).map ObservationRow.record) := by
  obtain ⟨-, p, hp⟩ := requireEnrolledRecoveryProfile_spec h.enrolled
  have hk := hs.cacheSound.keys
  have hacc := hs.modeledAccepted hp
  have hb := blockedHistory_of_enrolled hacc.blocked h.enrolled
  obtain ⟨-, hchecked⟩ := hb.blockedObservations_eq h.lineage
  have hstrict := strictOrdinals_rows hk hchecked
  have hstore (r : BlockedFinalityObservationV1) (t : E.Db) :=
    Sys.perform_eq_ok (s := s) (i := i) (x := .retainBlockedFinalityObservation o) (r := r) (t := t)
  have hbody (c : Commit E × BlockedFinalityObservationV1) :
      retainBlockedFinalityObservation E (s.conns i).maxVaultBytes s.tables o = .ok c ↔ _ :=
    retainBlockedObservation_eq_ok hk hacc.foreignKeys hb h hids
  have hpre : (Txn.retainBlockedFinalityObservation o).precheck E = .ok () ↔
      E.recovery.observationBytes o ≤ maxIntegrityRecordBytesV1 := by
    rw [Txn.precheck, refuseIf_eq_ok, not_lt]
  have hrun (c : Commit E × BlockedFinalityObservationV1) :
      transact E s.tables (s.conns i) (.retainBlockedFinalityObservation o) = .ok c ↔ _ :=
    (congrArg (· = Except.ok c) (hs.transact_eq h.enrolled)).to_iff.trans (hbody c)
  constructor
  · constructor
    · rintro ⟨r, hr⟩
      obtain ⟨hsize, c, hc, -⟩ := (hstore r _).mp ⟨hr, rfl⟩
      rcases (hrun _).mp hc with ⟨hmem, -⟩ | ⟨hlater, hopen, hroom, -⟩
      · exact ⟨⟨_, appendBlockedObservation_eq_ok.mpr ⟨hlt, h.joins hchecked, hstrict,
          .inl ⟨hmem, rfl⟩⟩⟩, hpre.mp hsize, .inl hmem⟩
      · exact ⟨⟨_, appendBlockedObservation_eq_ok.mpr ⟨hlt, h.joins hchecked, hstrict,
          .inr ⟨hlater, rfl⟩⟩⟩, hpre.mp hsize, .inr ⟨hopen, hroom⟩⟩
    · rintro ⟨⟨history', ha⟩, hsize, hroom⟩
      obtain ⟨-, -, -, ⟨hmem, -⟩ | ⟨hlater, -⟩⟩ := appendBlockedObservation_eq_ok.mp ha
      · exact ⟨o, ((hstore o _).mpr ⟨hpre.mpr hsize, .unchanged, (hrun _).mpr (.inl ⟨hmem, rfl⟩),
          rfl⟩).1⟩
      · have hnew := hroom.resolve_left fun hmem => (hlater o hmem).false
        exact ⟨o, ((hstore o _).mpr ⟨hpre.mpr hsize, .wrote (s.tables.observe o) false,
          (hrun _).mpr (.inr ⟨hlater, hnew.1, hnew.2, rfl⟩), rfl⟩).1⟩
  · intro r history' hr ha
    obtain ⟨-, c, hc, htables⟩ := (hstore r _).mp ⟨hr, rfl⟩
    obtain ⟨-, -, -, hcase⟩ := appendBlockedObservation_eq_ok.mp ha
    rcases (hrun _).mp hc with ⟨hmem, heq⟩ | ⟨hlater, -, -, heq⟩
    · obtain ⟨rfl, rfl⟩ := Prod.mk.inj heq
      obtain ⟨-, rfl⟩ := hcase.resolve_right fun hnew => (hnew.1 _ hmem).false
      rw [← htables]
      exact ⟨rfl, (hb.blockedObservations_eq h.lineage).1⟩
    · obtain ⟨rfl, rfl⟩ := Prod.mk.inj heq
      obtain ⟨-, rfl⟩ := hcase.resolve_left fun hold => (hlater _ hold.1).false
      refine ⟨rfl, ?_⟩
      -- The new state is reachable, and its history is again the records of its rows.
      have hs' : ((s.perform i (.retainBlockedFinalityObservation r)).2).Reachable := hs.perform i _
      generalize (s.perform i (.retainBlockedFinalityObservation r)).2 = s' at hs' htables ⊢
      have hprofile : s'.tables.profile = .modeled p := by
        rw [← htables]
        exact hp
      have hblocked := (hs'.modeledAccepted hprofile).blocked
      have hnew : s'.tables = s.tables.observe r := htables.symm
      rw [hnew] at hblocked ⊢
      have hb' : BlockedHistory (s.tables.observe r) profile :=
        blockedHistory_of_enrolled hblocked h.enrolled
      have hl' : loadIntegrityLineage E (s.tables.observe r) r.eventDigest = .ok (some l) :=
        h.lineage
      have hrows := observationRows_observe (t := s.tables) (o := r) fun x hx => by
        rw [← (checkObservationRow_index (hchecked x hx)).2.1]
        exact hlater _ (List.mem_map_of_mem hx)
      rw [(hb'.blockedObservations_eq hl').1, hrows, List.map_append]
      rfl

/-- The store and the function keep the same histories. In every reachable state, for every
observation of a transition's current lineage whose identity is not that of another
observation, they agree as long as the history is below the limit of the function. And the
function accepts what is retained again, with the history unchanged. -/
theorem observation_histories_agree :
    (∀ (s : Sys E) (i : ℕ) (o : BlockedFinalityObservationV1)
        (profile : BlockedFinalityRecoveryProfileV1) (l : IntegrityLineageV1), s.Reachable →
      BindsCurrent s.tables o profile l →
      (∀ r ∈ s.tables.observations, r.observationId = o.observationId → r.record = o) →
      ∃ history, blockedObservations E s.tables o.eventDigest = .ok history ∧
        (history.length < maxBlockedObservationsV1 → RulesAgree s i o history)) ∧
    ∀ (history : List BlockedFinalityObservationV1) (o : BlockedFinalityObservationV1),
      Built history → history.length < maxBlockedObservationsV1 → o ∈ history →
        appendBlockedObservationV1 history o = .ok history := by
  refine ⟨fun s i o profile l hs h hids => ?_, fun history o h hlt ho => h.append_again hlt ho⟩
  obtain ⟨-, p, hp⟩ := requireEnrolledRecoveryProfile_spec h.enrolled
  have hb := blockedHistory_of_enrolled (hs.modeledAccepted hp).blocked h.enrolled
  exact ⟨_, (hb.blockedObservations_eq h.lineage).1, h.rulesAgree hs hids⟩

end Agreement

/-- The `n`th attempt on the second event of the sample store. -/
def sampleAttempt (n : ℕ) : BlockedFinalityObservationV1 :=
  { sampleObservation 1 sampleSecond with
    attemptOrdinal := n + 1
    observationId := 48 + BitVec.ofNat 256 n
    ordinalPos := Nat.succ_pos n }

/-- The function builds the history of the first attempts, up to its limit. -/
theorem sampleAttempts_built {n : ℕ} (hn : n ≤ maxBlockedObservationsV1) :
    Built ((List.range n).map sampleAttempt) := by
  induction n with
  | zero => exact .nil
  | succ n ih =>
    refine (ih (by omega)).append (o := sampleAttempt n) ?_
    have hstrict := (ih (by omega)).strict.1
    rw [List.range_succ, List.map_append, appendBlockedObservation_eq_ok, List.length_map,
      List.length_range]
    refine ⟨by omega, ?_, hstrict, .inr ⟨?_, rfl⟩⟩
    · intro x hx
      obtain ⟨m, -, rfl⟩ := List.mem_map.mp (List.mem_of_head? hx)
      rfl
    · intro x hx
      obtain ⟨m, hm, rfl⟩ := List.mem_map.mp hx
      exact Nat.succ_lt_succ (List.mem_range.mp hm)

/-- A sealed store refuses the next attempt, which the function would append ; and at its limit
the function refuses what it has retained. -/
theorem observation_histories_differ :
    (sampleSealed.Reachable ∧ ∃ profile l history, BindsCurrent sampleSealed.tables
        (sampleAttempt 1) profile l ∧
      blockedObservations sampleEnv sampleSealed.tables (sampleAttempt 1).eventDigest =
        .ok history ∧
      (∃ history', appendBlockedObservationV1 history (sampleAttempt 1) = .ok history') ∧
      ∃ e, (sampleSealed.perform 0
        (.retainBlockedFinalityObservation (sampleAttempt 1))).1 = .error e) ∧
    ∃ history, Built history ∧ sampleAttempt 0 ∈ history ∧
      ∃ e, appendBlockedObservationV1 history (sampleAttempt 0) = .error e := by
  refine ⟨⟨sampleSealed_reachable, sampleRecoveryProfile,
    ⟨samplePending 1 sampleSecond, none, none, none⟩, [sampleAttempt 0],
    ⟨by decide +kernel, by decide +kernel, by decide +kernel⟩, by decide +kernel,
    ⟨[sampleAttempt 0, sampleAttempt 1], by decide +kernel⟩,
    ⟨_, (by decide +kernel : _ = Except.error (⟨.operational,
      "blocked observation: a sealed instance admits no further blocked observation"⟩ :
        StoreError))⟩⟩,
    (List.range maxBlockedObservationsV1).map sampleAttempt, sampleAttempts_built le_rfl,
    List.mem_map_of_mem (List.mem_range.mpr (by decide)), ?_⟩
  unfold appendBlockedObservationV1
  rw [refuseIf_bind_of (by simp)]
  exact ⟨_, rfl⟩

/-- The second attempt after a retry of the first, and a repeated one. -/
theorem observation_histories_agree_sample :
    blockedObservations sampleEnv sampleRetried.tables (sampleAttempt 1).eventDigest =
      .ok [sampleAttempt 0] ∧
    appendBlockedObservationV1 [sampleAttempt 0] (sampleAttempt 1) =
      .ok [sampleAttempt 0, sampleAttempt 1] ∧
    RulesAgree sampleRetried 0 (sampleAttempt 1) [sampleAttempt 0] ∧
    appendBlockedObservationV1 ((List.range 2).map sampleAttempt) (sampleAttempt 0) =
      .ok ((List.range 2).map sampleAttempt) := by
  obtain ⟨hagree, hagain⟩ := observation_histories_agree (E := sampleEnv)
  have hhistory : blockedObservations sampleEnv sampleRetried.tables (sampleAttempt 1).eventDigest =
      .ok [sampleAttempt 0] := by decide +kernel
  obtain ⟨history, hread, hrules⟩ := hagree sampleRetried 0 (sampleAttempt 1) sampleRecoveryProfile
    ⟨samplePending 1 sampleSecond, none, none, none⟩ sampleRetried_reachable
    ⟨by decide +kernel, by decide +kernel, by decide +kernel⟩ (by decide +kernel)
  obtain rfl := Except.ok.inj (hhistory.symm.trans hread)
  exact ⟨hhistory, by decide +kernel, hrules (by decide),
    hagain _ _ (sampleAttempts_built (by decide)) (by decide)
      (List.mem_map_of_mem (List.mem_range.mpr (by decide)))⟩

end Etzio
