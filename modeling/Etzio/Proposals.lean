import Etzio.Ledger

/-!
# Proposed events

An event is built from the position of a reduced stream : the next sequence number, the
head as its predecessor and the mission's identities. `step_propose` is what remains to be
checked of such an event, the transition and the branch of its kind, and
`reduceEvents_snoc` extends an accepted stream by it.
-/

open CheckedRun

namespace Etzio

variable {P : Primitives}

/-! ## Construction -/

/-- A body with its envelope's identity as the digest. -/
def EventBody.identified (P : Primitives) (b : EventBody) : EventV1 :=
  { b with eventDigest := P.eventId b }

/-- `EventV1.create` : the event of a body that the constructor accepts. -/
def EventV1.create (P : Primitives) (b : EventBody) : Except String EventV1 := do
  (b.identified P).verify P
  return b.identified P

theorem create_eq_ok {b : EventBody} {e : EventV1} (h : EventV1.create P b = .ok e) :
    e = b.identified P ∧ e.verify P = .ok () := by
  obtain ⟨hverify, he⟩ := unit_bind_eq_ok.mp h
  obtain rfl : b.identified P = e := by simpa [pure, Except.pure] using he
  exact ⟨rfl, hverify⟩

/-- The body of an event that follows the events so far. -/
def Reduction.nextBody (s : Reduction) (decisionTime : ℕ) (payload : Payload) : EventBody where
  missionId := s.missionId
  seq := s.expectedSeq
  unit := eventUnitByKindV1 payload.kind
  authorityId := s.authorityId
  targetId := s.targetId
  decisionTime := decisionTime
  payload := payload
  prevDigest := s.expectedPrev

/-- The event of that body. -/
def Reduction.nextEvent (P : Primitives) (s : Reduction) (decisionTime : ℕ) (payload : Payload) :
    EventV1 :=
  (s.nextBody decisionTime payload).identified P

@[simp] theorem nextEvent_payload {s : Reduction} {t : ℕ} {p : Payload} :
    (s.nextEvent P t p).payload = p := rfl

@[simp] theorem nextEvent_decisionTime {s : Reduction} {t : ℕ} {p : Payload} :
    (s.nextEvent P t p).decisionTime = t := rfl

@[simp] theorem nextEvent_kind {s : Reduction} {t : ℕ} {p : Payload} :
    (s.nextEvent P t p).kind = p.kind := rfl

@[simp] theorem nextEvent_prevDigest {s : Reduction} {t : ℕ} {p : Payload} :
    (s.nextEvent P t p).prevDigest = s.expectedPrev := rfl

/-- The events of a list of decision times and payloads, each the successor of the one
before. -/
def Reduction.extension (P : Primitives) (s : Reduction) : List (ℕ × Payload) → List EventV1
  | [] => []
  | (t, p) :: rest =>
    s.nextEvent P t p :: (s.advance s.phase (s.nextEvent P t p)).extension P rest

/-- An extension depends only on the position and the identities. -/
theorem extension_congr {s s' : Reduction} (hm : s.missionId = s'.missionId)
    (ha : s.authorityId = s'.authorityId) (ht : s.targetId = s'.targetId)
    (hseq : s.expectedSeq = s'.expectedSeq) (hprev : s.expectedPrev = s'.expectedPrev)
    (plan : List (ℕ × Payload)) : s.extension P plan = s'.extension P plan := by
  induction plan generalizing s s' with
  | nil => rfl
  | cons x plan ih =>
    obtain ⟨t, p⟩ := x
    have hnext : s.nextEvent P t p = s'.nextEvent P t p := by
      simp only [Reduction.nextEvent, Reduction.nextBody, hm, ha, ht, hseq, hprev]
    simp only [Reduction.extension, hnext]
    congr 1
    exact ih hm ha ht (congrArg (· + 1) hseq) rfl

/-! ## Acceptance -/

/-- The header of the next event passes. -/
theorem checkHeader_next {s : Reduction} {t : ℕ} {p : Payload}
    (hverify : (s.nextEvent P t p).verify P = .ok ())
    (htime : ∀ x ∈ s.previousDecisionTime, x ≤ t) :
    checkHeader P s (s.nextEvent P t p) = .ok () := by
  simp only [checkHeader, unit_bind_eq_ok, mapError_eq_ok, refuseIf_eq_ok, not_not, not_exists,
    not_and, not_lt]
  exact ⟨hverify, rfl, rfl, rfl, rfl, rfl, htime⟩

/-- The next event is accepted when its transition is legal and its branch accepts it. -/
theorem step_propose {s s' : Reduction} {t : ℕ} {p : Payload} {phase : Phase}
    (hverify : (s.nextEvent P t p).verify P = .ok ())
    (htime : ∀ x ∈ s.previousDecisionTime, x ≤ t) (hphase : nextPhase s.phase p.kind = some phase)
    (happly : applyPayload P s (s.nextEvent P t p) = .ok s') :
    step P s (s.nextEvent P t p) = .ok (s'.advance phase (s.nextEvent P t p)) := by
  simp only [step, unit_bind_eq_ok]
  refine ⟨checkHeader_next hverify htime, ?_⟩
  have htransition : transition s.phase (s.nextEvent P t p).kind = .ok phase := by
    simp [transition, hphase]
  exact bind_eq_ok.mpr ⟨phase, htransition, bind_eq_ok.mpr ⟨s', happly, rfl⟩⟩

/-- An accepted stream extended by an accepted event. -/
theorem reduceEvents_snoc {events : List EventV1} {q : MissionProjection} {e : EventV1}
    {s : Reduction} (h : reduceEvents P events = .ok q) (hstep : step P q.final e = .ok s) :
    ∃ p, reduceEvents P (events ++ [e]) =
      .ok { events := events ++ [e], final := s, partitions := p } := by
  obtain ⟨first, rest, rfl, -, run⟩ := reduceEvents_eq_ok h
  have hrun : reduceLoop P first (first :: (rest ++ [e])) = .ok s :=
    foldlM_append_eq_ok.mpr ⟨q.final, run, foldlM_singleton_eq_ok.mpr hstep⟩
  obtain ⟨p, -, hok⟩ := reduceEvents_of_reduceLoop hrun
  exact ⟨p, hok⟩

/-- An accepted extension extends the run of the loop. -/
theorem reduceEvents_append {events more : List EventV1} {q r : MissionProjection}
    (h : reduceEvents P events = .ok q) (h' : reduceEvents P (events ++ more) = .ok r) :
    more.foldlM (step P) q.final = .ok r.final := by
  obtain ⟨first, rest, rfl, -, run⟩ := reduceEvents_eq_ok h
  obtain ⟨first', rest', heq, -, run'⟩ := reduceEvents_eq_ok h'
  obtain ⟨rfl, rfl⟩ := List.cons.inj heq
  obtain ⟨m, hm, hmore⟩ := foldlM_append_eq_ok.mp run'
  obtain rfl : q.final = m := Except.ok.inj (run.symm.trans hm)
  exact hmore

end Etzio
