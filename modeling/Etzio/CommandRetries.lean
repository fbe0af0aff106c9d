import Etzio.CommandLookups

/-!
# Retried commands

Any number of clients call the seven commands on one store, each load and each append atomic.
`Serves` is that store : an append happens only on the head the command expects and under a
digest no retained event has ; the log remembers whose append it was. Loads may fail, an append
may be refused for any reason, and the vault replies what it likes.

`run_guarantees` is what one call keeps true whatever the others do between its calls, and
`command_retries` puts the clients together : a command appends at most one event over the whole
run, every successful call returns that event, only the call that appended it says that it was
not replayed, and the call can be repeated on every later store.
-/

open CheckedRun Interaction LeaseBook

namespace Etzio

variable {P : Primitives} {W : CommandEnv} {ι : Type*}

/-! ## The store of the commands -/

/-- The retained streams, and who appended which event. -/
structure CommandStore (ι : Type*) where
  streams : Digest → List EventV1
  log : List (ι × EventV1)

/-- An append of client `i`. -/
def CommandStore.append (s : CommandStore ι) (i : ι) (e : EventV1) : CommandStore ι where
  streams := Function.update s.streams e.missionId (s.streams e.missionId ++ [e])
  log := s.log ++ [(i, e)]

/-- The replies of the store to client `i` ; `faults` says that loads may fail. -/
def Serves (faults : Prop) (i : ι) (σ : Type) (s : CommandStore ι) (c : StoreCall σ) (y : σ)
    (s' : CommandStore ι) : Prop :=
  match σ, c, y with
  | _, .load m, y => s' = s ∧ (y = .ok (s.streams m) ∨ faults ∧ ∃ x, y = .error x)
  | _, .append _ e head, y =>
    (y = .ok () ∧ headDigest (s.streams e.missionId) = head ∧
        (∀ m, ∀ x ∈ s.streams m, x.eventDigest ≠ e.eventDigest) ∧ s' = s.append i e) ∨
      (∃ x, y = .error x) ∧ s' = s
  | _, .loadEventArtifacts _ _, _ => s' = s
  | _, .resolveEvidenceArtifacts _ _, _ => s' = s

/-- The streams of a store : accepted, of their own mission, under distinct digests. -/
structure RetainedStreams (P : Primitives) (s : CommandStore ι) : Prop where
  accepted : ∀ m, s.streams m = [] ∨ ∃ q, reduceEvents P (s.streams m) = .ok q
  mission : ∀ m, ∀ e ∈ s.streams m, e.missionId = m
  distinct : ∀ m, ((s.streams m).map EventV1.eventDigest).Nodup

/-- The head of a longer stream is another one. -/
theorem prefix_head_eq {h h' : List EventV1} (hp : h <+: h') (hne : h ≠ [])
    (hnodup : (h'.map EventV1.eventDigest).Nodup) (hhead : headDigest h' = headDigest h) :
    h' = h := by
  obtain ⟨more, rfl⟩ := hp
  obtain ⟨front, a, rfl⟩ : ∃ front a, h = front ++ [a] :=
    ⟨_, _, (List.dropLast_append_getLast hne).symm⟩
  rcases List.eq_nil_or_concat more with rfl | ⟨body, b, rfl⟩
  · exact List.append_nil _
  · rw [List.concat_eq_append, ← List.append_assoc] at hhead hnodup
    rw [headDigest_snoc, headDigest_snoc] at hhead
    simp only [List.map_append, List.map_cons, List.map_nil] at hnodup
    have hdisjoint := (List.nodup_append.mp hnodup).2.2 a.eventDigest (by simp) b.eventDigest
      (by simp)
    exact absurd hhead.symm hdisjoint

/-- Distinct digests tell the events of a stream apart. -/
theorem eq_of_digest {h : List EventV1} (hnodup : (h.map EventV1.eventDigest).Nodup)
    {a b : EventV1} (ha : a ∈ h) (hb : b ∈ h) (hab : a.eventDigest = b.eventDigest) : a = b :=
  List.inj_on_of_nodup_map hnodup ha hb hab

/-! ## Answered commands -/

/-- The command with these arguments has its event in the stream. -/
def Answered (P : Primitives) (c : VerificationCommand) (h : List EventV1) (e : EventV1) : Prop :=
  c.validateRequest = .ok () ∧ ∃ q f o, reduceEvents P h = .ok q ∧ Context P q c f ∧
    f q = .ok (some o) ∧ o.event = e

theorem Answered.answer {c : VerificationCommand} {h : List EventV1} {e : EventV1}
    (ha : Answered P c h e) : c.answer h = some e ∧ e ∈ h := by
  obtain ⟨-, q, f, o, hq, hc, hf, rfl⟩ := ha
  have hfound := (hc.found hq hf).1
  exact ⟨hfound, List.mem_of_find?_eq_some hfound⟩

theorem Answered.longer {c : VerificationCommand} {h h' : List EventV1} {e : EventV1}
    {q' : MissionProjection} (ha : Answered P c h e) (hp : h <+: h')
    (hq' : reduceEvents P h' = .ok q') : Answered P c h' e := by
  obtain ⟨hvalid, q, f, o, hq, hc, hf, rfl⟩ := ha
  obtain ⟨o', hf', he⟩ := hc.stable hq hq' hp hf
  exact ⟨hvalid, q', f, o', hq', hc.longer hq hq' hp, hf', he⟩

/-- A stream that holds an event is accepted. -/
theorem RetainedStreams.accepted_of_ne {s : CommandStore ι} (hs : RetainedStreams P s)
    {m : Digest} (hne : s.streams m ≠ []) : ∃ q, reduceEvents P (s.streams m) = .ok q :=
  (hs.accepted m).resolve_left hne

/-! ## What the clients keep -/

variable (P) in
/-- The log against the streams : every logged event is the one its client's command looks for,
and no event is logged twice. -/
structure Logged (cmd : ι → VerificationCommand) (s : CommandStore ι) : Prop where
  streams : RetainedStreams P s
  answered : ∀ x ∈ s.log, Answered P (cmd x.1) (s.streams (cmd x.1).missionId) x.2
  distinct : (s.log.map fun x => x.2.eventDigest).Nodup

theorem append_longer (s : CommandStore ι) (i : ι) (e : EventV1) (m : Digest) :
    s.streams m <+: (s.append i e).streams m := by
  by_cases hm : m = e.missionId
  · subst hm
    simp [CommandStore.append]
  · simp [CommandStore.append, Function.update_of_ne hm]

/-- An append of an accepted extension keeps the store. -/
theorem RetainedStreams.append {s : CommandStore ι} (hs : RetainedStreams P s) {i : ι}
    {e : EventV1} (hfresh : ∀ m, ∀ x ∈ s.streams m, x.eventDigest ≠ e.eventDigest)
    (haccepted : ∃ q, reduceEvents P (s.streams e.missionId ++ [e]) = .ok q) :
    RetainedStreams P (s.append i e) where
  accepted m := by
    by_cases hm : m = e.missionId
    · subst hm
      exact .inr (by simpa [CommandStore.append] using haccepted)
    · simpa [CommandStore.append, Function.update_of_ne hm] using hs.accepted m
  mission m x hx := by
    by_cases hm : m = e.missionId
    · subst hm
      simp only [CommandStore.append, Function.update_self, List.mem_append,
        List.mem_singleton] at hx
      rcases hx with hx | rfl
      · exact hs.mission _ x hx
      · rfl
    · simp only [CommandStore.append, Function.update_of_ne hm] at hx
      exact hs.mission m x hx
  distinct m := by
    by_cases hm : m = e.missionId
    · subst hm
      simp only [CommandStore.append, Function.update_self, List.map_append, List.map_cons,
        List.map_nil]
      refine List.nodup_append.mpr ⟨hs.distinct _, List.nodup_singleton _, ?_⟩
      intro a ha b hb
      obtain ⟨x, hx, rfl⟩ := List.mem_map.mp ha
      obtain rfl := List.mem_singleton.mp hb
      exact hfresh _ x hx
    · simpa [CommandStore.append, Function.update_of_ne hm] using hs.distinct m

/-- An append of the event a client's command looks for keeps the log. -/
theorem Logged.append {cmd : ι → VerificationCommand} {s : CommandStore ι}
    (hs : Logged P cmd s) {i : ι} {e : EventV1} (hmission : e.missionId = (cmd i).missionId)
    (hfresh : ∀ m, ∀ x ∈ s.streams m, x.eventDigest ≠ e.eventDigest)
    (hanswered : Answered P (cmd i) (s.streams e.missionId ++ [e]) e) :
    Logged P cmd (s.append i e) := by
  obtain ⟨-, q, -, -, hq, -⟩ := id hanswered
  have hstreams := hs.streams.append hfresh ⟨q, hq⟩ (i := i)
  refine ⟨hstreams, fun x hx => ?_, ?_⟩
  · rcases List.mem_append.mp hx with hx | hx
    · have hold := hs.answered x hx
      have hp := append_longer s i e (cmd x.1).missionId
      have hmem := hp.subset hold.answer.2
      obtain ⟨q', hq'⟩ := hstreams.accepted_of_ne (List.ne_nil_of_mem hmem)
      exact hold.longer hp hq'
    · obtain rfl := List.mem_singleton.mp hx
      simpa [CommandStore.append, ← hmission] using hanswered
  · simp only [CommandStore.append, List.map_append, List.map_cons, List.map_nil]
    refine List.nodup_append.mpr ⟨hs.distinct, List.nodup_singleton _, ?_⟩
    intro a ha b hb
    obtain ⟨x, hx, rfl⟩ := List.mem_map.mp ha
    obtain rfl := List.mem_singleton.mp hb
    exact hfresh _ x.2 (hs.answered x hx).answer.2

/-! ## Rely and guarantee -/

variable [DecidableEq ι]

/-- What happens to the store apart from the appends of client `i`. -/
def Others (i : ι) (s s' : CommandStore ι) : Prop :=
  (∀ m, s.streams m <+: s'.streams m) ∧ s.log <+: s'.log ∧
    s'.log.filter (fun x => x.1 = i) = s.log.filter fun x => x.1 = i

/-- What client `i` does to the store. -/
def Own (i : ι) (s s' : CommandStore ι) : Prop :=
  (∀ m, s.streams m <+: s'.streams m) ∧ s.log <+: s'.log ∧
    ∀ j, j ≠ i → s'.log.filter (fun x => x.1 = j) = s.log.filter fun x => x.1 = j

theorem Others.refl (i : ι) (s : CommandStore ι) : Others i s s :=
  ⟨fun _ => List.prefix_refl _, List.prefix_refl _, rfl⟩

theorem Others.trans {i : ι} {a b c : CommandStore ι} (hab : Others i a b) (hbc : Others i b c) :
    Others i a c :=
  ⟨fun m => (hab.1 m).trans (hbc.1 m), hab.2.1.trans hbc.2.1, hbc.2.2.trans hab.2.2⟩

theorem Own.refl (i : ι) (s : CommandStore ι) : Own i s s :=
  ⟨fun _ => List.prefix_refl _, List.prefix_refl _, fun _ _ => rfl⟩

theorem Own.others {i j : ι} (hij : i ≠ j) {a b : CommandStore ι} (h : Own j a b) :
    Others i a b :=
  ⟨h.1, h.2.1, h.2.2 i hij⟩

theorem append_own (s : CommandStore ι) (i : ι) (e : EventV1) : Own i s (s.append i e) := by
  refine ⟨append_longer s i e, List.prefix_append _ _, fun j hj => ?_⟩
  simp [CommandStore.append, Ne.symm hj]

variable (P) in
/-- What a call of client `i` has established when it succeeds. -/
def Succeeded (cmd : ι → VerificationCommand) (i : ι) (s : CommandStore ι)
    (r : Except CommandError CommandOutcome) : Prop :=
  ∀ o, r = .ok o → Answered P (cmd i) (s.streams (cmd i).missionId) o.event ∧
    s.log.filter (fun x => x.1 = i) = if o.replayed then [] else [(i, o.event)]

theorem Succeeded.others {cmd : ι → VerificationCommand} {i : ι} {a b : CommandStore ι}
    {r : Except CommandError CommandOutcome} (hR : Others i a b) (hI : Logged P cmd b)
    (h : Succeeded P cmd i a r) : Succeeded P cmd i b r := by
  intro o ho
  obtain ⟨ha, hlog⟩ := h o ho
  have hp := hR.1 (cmd i).missionId
  obtain ⟨q', hq'⟩ := hI.streams.accepted_of_ne (List.ne_nil_of_mem (hp.subset ha.answer.2))
  exact ⟨ha.longer hp hq', hR.2.2.trans hlog⟩

section Run

variable {cmd : ι → VerificationCommand} {i : ι} {faults : Prop} {s : CommandStore ι}
  {Q : CommandStore ι → Except CommandError CommandOutcome → Prop}

/-- The guarantee of client `i` for a program. -/
abbrev Keeps (P : Primitives) (cmd : ι → VerificationCommand) (faults : Prop) (i : ι) {α : Type}
    (Q : CommandStore ι → Except CommandError α → Prop) (s : CommandStore ι)
    (p : CommandProg α) : Prop :=
  Guarantees (Serves faults i) (Logged P cmd) (Others i) (Own i) Q s p

theorem keeps_ofExcept_bind {α β : Type} {x : Except CommandError α} {f : α → CommandProg β}
    {Q : CommandStore ι → Except CommandError β → Prop}
    (hok : ∀ a, x = .ok a → Keeps P cmd faults i Q s (f a))
    (herror : ∀ e, Q s (.error e)) : Keeps P cmd faults i Q s (ofExcept x >>= f) := by
  cases x with
  | ok a => exact hok a rfl
  | error e => exact herror e

theorem keeps_load_bind {β : Type} {m : Digest} {f : List EventV1 → CommandProg β}
    {Q : CommandStore ι → Except CommandError β → Prop}
    (hok : ∀ b, Others i s b → Logged P cmd b → Keeps P cmd faults i Q b (f (b.streams m)))
    (herror : ∀ b e, Q b (.error e)) :
    Keeps P cmd faults i Q s (callStore (.load m) >>= f) := by
  rintro a ha hI y b ⟨rfl, rfl | ⟨-, e, rfl⟩⟩
  · exact ⟨hI, Own.refl i b, hok b ha hI⟩
  · exact ⟨hI, Own.refl i b, herror b e⟩

/-- Client `i` is about to append its event to the stream it loaded. -/
structure Ready (cmd : ι → VerificationCommand) (i : ι) (h : List EventV1) (s : CommandStore ι) :
    Prop where
  stream : h <+: s.streams (cmd i).missionId
  log : s.log.filter (fun x => x.1 = i) = []

theorem Ready.others {h : List EventV1} {a b : CommandStore ι} (hr : Ready cmd i h a)
    (hR : Others i a b) : Ready cmd i h b :=
  ⟨hr.stream.trans (hR.1 _), hR.2.2.trans hr.log⟩

/-- An append that succeeds appends to the loaded stream, and to no other one. -/
theorem keeps_append_call {h : List EventV1} {q : MissionProjection} {f : Lookup} {p : Proposal}
    (hvalid : (cmd i).validateRequest = .ok ()) (hq : reduceEvents P h = .ok q)
    (hc : Context P q (cmd i) f) (hp : Proposed P (cmd i) h q p f)
    (hmission : p.event.missionId = (cmd i).missionId)
    (haccepted : ∃ q', reduceEvents P (h ++ [p.event]) = .ok q') (hs : Ready cmd i h s)
    (kind : AppendKind) :
    Keeps P cmd faults i (fun b r =>
      (r = .ok () → b.log.filter (fun x => x.1 = i) = [(i, p.event)]) ∧
        ∀ x, r = .error x → Ready cmd i h b) s
      (callStore (.append kind p.event (cmd i).expectedHead)) := by
  rintro a ha hI y b (⟨rfl, hhead, hfresh, rfl⟩ | ⟨⟨x, rfl⟩, rfl⟩)
  · have ha := hs.others ha
    have hsame : a.streams p.event.missionId = h := by
      rw [hmission] at hhead ⊢
      exact prefix_head_eq ha.stream (reduceEvents_events hq).2 (hI.streams.distinct _)
        (hhead.trans hp.head.symm)
    obtain ⟨q', hq'⟩ := haccepted
    obtain ⟨o, hf, he⟩ := hp.finds q' hq'
    have hanswered : Answered P (cmd i) (a.streams p.event.missionId ++ [p.event]) p.event := by
      rw [hsame]
      exact ⟨hvalid, q', f, o, hq', hc.longer hq hq' (List.prefix_append _ _), hf, he⟩
    refine ⟨hI.append hmission hfresh hanswered, append_own a i p.event, fun _ => ?_, by simp⟩
    simp [CommandStore.append, ha.log]
  · exact ⟨hI, Own.refl i b, by simp, fun _ _ => hs.others ha⟩

/-- The append of a command, which receipt admission tries twice. -/
theorem keeps_append {h : List EventV1} {q : MissionProjection} {f : Lookup} {p : Proposal}
    (hvalid : (cmd i).validateRequest = .ok ()) (hq : reduceEvents P h = .ok q)
    (hc : Context P q (cmd i) f) (hp : Proposed P (cmd i) h q p f)
    (hmission : p.event.missionId = (cmd i).missionId)
    (haccepted : ∃ q', reduceEvents P (h ++ [p.event]) = .ok q') (hs : Ready cmd i h s) :
    Keeps P cmd faults i (fun b r =>
      (r = .ok () → b.log.filter (fun x => x.1 = i) = [(i, p.event)]) ∧
        ∀ x, r = .error x → Ready cmd i h b) s ((cmd i).append p.event) := by
  have hcall : ∀ {s}, Ready cmd i h s → Keeps P cmd faults i _ s _ := fun hs =>
    keeps_append_call hvalid hq hc hp hmission haccepted hs (cmd i).appendKind
  unfold VerificationCommand.append
  split
  · refine guarantees_handle ((hcall hs).mono fun b r hr => ⟨fun a hok => ?_, fun x hx => ?_⟩)
    · obtain rfl : r = .ok () := hok
      exact hr
    · have hb := hr.2 x hx
      split
      · exact hcall hb
      · exact ⟨by simp, fun _ _ => hb⟩
  · exact hcall hs

/-- A reload reads a stream that has grown. -/
theorem keeps_reload_bind {β : Type} {f : MissionProjection → CommandProg β}
    {Q : CommandStore ι → Except CommandError β → Prop}
    (hok : ∀ b q, Others i s b → Logged P cmd b →
      reduceEvents P (b.streams (cmd i).missionId) = .ok q → Keeps P cmd faults i Q b (f q))
    (herror : ∀ b e, Q b (.error e)) :
    Keeps P cmd faults i Q s ((cmd i).reload P >>= f) := by
  rintro a ha hI y b ⟨rfl, rfl | ⟨-, e, rfl⟩⟩
  · refine ⟨hI, Own.refl i b, ?_⟩
    exact keeps_ofExcept_bind (fun q hq => hok b q ha hI (mapError_eq_ok.mp hq)) (herror b)
  · exact ⟨hI, Own.refl i b, herror b e⟩

/-- After a failed append a call returns what it finds, or fails. -/
theorem keeps_recover {h : List EventV1} {q : MissionProjection} {f : Lookup} {p : Proposal}
    (hvalid : (cmd i).validateRequest = .ok ()) (hq : reduceEvents P h = .ok q)
    (hc : Context P q (cmd i) f) (hp : Proposed P (cmd i) h q p f) (hs : Ready cmd i h s)
    (x : CommandError) :
    Keeps P cmd faults i (Succeeded P cmd i) s ((cmd i).recover P p x) := by
  have herror : ∀ (b : CommandStore ι) e, Succeeded P cmd i b (.error e) := by
    intro b e o ho
    simp at ho
  unfold VerificationCommand.recover
  split
  · refine keeps_reload_bind (fun b q' hb hI hq' => ?_) herror
    have hb := hs.others hb
    refine keeps_ofExcept_bind (fun found hfound => ?_) (herror b)
    rw [hp.lookup] at hfound
    cases found with
    | some o =>
      intro o' ho'
      obtain rfl := Except.ok.inj ho'
      have hc' := hc.longer hq hq' hb.stream
      refine ⟨⟨hvalid, q', f, o, hq', hc', hfound, rfl⟩, ?_⟩
      rw [(hc'.found hq' hfound).2, hb.log]
      rfl
    | none =>
      dsimp only
      split
      · exact herror b _
      · exact herror b _
  · exact herror s x

/-- The commit of a proposal for the stream that was loaded. -/
theorem keeps_commit {h : List EventV1} {q : MissionProjection} {f : Lookup} {p : Proposal}
    (hvalid : (cmd i).validateRequest = .ok ()) (hq : reduceEvents P h = .ok q)
    (hc : Context P q (cmd i) f) (hp : Proposed P (cmd i) h q p f)
    (hmission : p.event.missionId = (cmd i).missionId)
    (haccepted : ∃ q', reduceEvents P (h ++ [p.event]) = .ok q') (hs : Ready cmd i h s) :
    Keeps P cmd faults i (Succeeded P cmd i) s ((cmd i).commit P p) := by
  have herror : ∀ (b : CommandStore ι) e, Succeeded P cmd i b (.error e) := by
    intro b e o ho
    simp at ho
  -- Nothing of the append's result, or what the recovery returned.
  refine guarantees_bind (Guarantees.mono (Q := fun b r =>
    (r = .ok none → b.log.filter (fun x => x.1 = i) = [(i, p.event)]) ∧
      ∀ o, r = .ok (some o) → Succeeded P cmd i b (.ok o)) ?_ ?_)
  · refine guarantees_handle (guarantees_bind ((keeps_append hvalid hq hc hp hmission haccepted
      hs).mono fun b r hr => ⟨fun u hu => ⟨fun a ha => ?_, by simp⟩, fun e he => ⟨by simp, ?_⟩⟩))
    · obtain rfl : none = a := Except.ok.inj ha
      exact ⟨fun _ => hr.1 hu, by simp⟩
    · intro e' he'
      obtain rfl := Except.error.inj he'
      refine guarantees_bind ((keeps_recover hvalid hq hc hp (hr.2 e he) e).mono
        fun b r hr => ⟨fun o ho => ⟨by simp, fun o' ho' => ?_⟩, fun e he => ⟨by simp, by simp⟩⟩)
      obtain rfl := Option.some.inj (Except.ok.inj ho')
      exact ho ▸ hr
  · rintro b r ⟨happended, hrecovered⟩
    refine ⟨fun appended hok => ?_, fun e _ => herror b e⟩
    subst hok
    cases appended with
    | some o => exact hrecovered o rfl
    | none =>
      refine keeps_reload_bind (fun b' q' hb hI hq' => ?_) herror
      intro o ho
      have hlog := hb.2.2.trans (happended rfl)
      have hmem : (i, p.event) ∈ b'.log :=
        List.mem_of_mem_filter (hlog ▸ List.mem_singleton_self (i, p.event))
      have hanswered := hI.answered _ hmem
      obtain ⟨hretained, hdigest, hreplayed⟩ := hp.committed _ q' o hq' ho
      have he := eq_of_digest (hI.streams.distinct _) hretained hanswered.answer.2 hdigest
      rw [he, hreplayed]
      exact ⟨hanswered, hlog⟩

/-- The calls that read the vault. -/
def StoreCall.reads (σ : Type) : StoreCall σ → Prop
  | .load _ => False
  | .append _ _ _ => False
  | .loadEventArtifacts _ _ => True
  | .resolveEvidenceArtifacts _ _ => True

theorem resolveFromCas_calls (q : MissionProjection) (lease : VerificationLeaseV1) (t : ℕ)
    (grant : AuthorityGrantV1) : (resolveFromCas W q lease t grant).Calls StoreCall.reads := by
  refine .bind trivial fun x => .bind trivial fun _ => .bind trivial fun _ => ?_
  refine .bind ⟨trivial, fun _ => trivial⟩ fun data => .bind trivial fun sources => ?_
  refine .bind trivial fun _ => .bind trivial fun targets => ?_
  exact .bind ⟨trivial, fun _ => trivial⟩ fun typedBytes => trivial

theorem resolveNewOutputArtifacts_calls (a : AuthenticatedVerifierReceiptV1) (maximum : ℕ) :
    (resolveNewOutputArtifacts a maximum).Calls StoreCall.reads :=
  .bind trivial fun _ => .bind ⟨trivial, fun _ => trivial⟩ fun _ => trivial

/-- A draft only reads the vault. -/
theorem draft_calls (c : VerificationCommand) (h : List EventV1) (q : MissionProjection) :
    (c.draft P W h q).Calls StoreCall.reads := by
  cases c with
  | resolve r =>
    refine .bind trivial fun lease => .bind trivial fun _ => .bind trivial fun x => ?_
    refine .bind trivial fun _ => .bind trivial fun existing => ?_
    cases existing with
    | some y => exact .bind trivial fun _ => trivial
    | none =>
      refine .bind trivial fun _ => .bind trivial fun _ => .bind trivial fun _ => ?_
      refine .bind trivial fun _ => .bind trivial fun _ => ?_
      exact .bind (resolveFromCas_calls q lease r.decisionTime x.1) fun _ =>
        .bind trivial fun _ => trivial
  | admitReceipt r =>
    refine .bind trivial fun lease => .bind trivial fun _ => .bind trivial fun _ => ?_
    refine .bind trivial fun resolution => .bind trivial fun a => .bind trivial fun existing => ?_
    cases existing with
    | some y => exact trivial
    | none =>
      refine .bind trivial fun _ => .bind trivial fun _ => .bind trivial fun _ => ?_
      refine .bind trivial fun x => .bind trivial fun _ => ?_
      exact .bind (resolveNewOutputArtifacts_calls a _) fun _ => .bind trivial fun _ =>
        .bind trivial fun _ => trivial
  | _ => exact trivial

omit [DecidableEq ι] in
/-- A read of the vault changes nothing. -/
theorem serves_reads {σ : Type} {a b : CommandStore ι} {c : StoreCall σ} {y : σ}
    (hc : c.reads) (h : Serves faults i σ a c y b) : b = a := by
  cases c with
  | load m => exact hc.elim
  | append kind e head => exact hc.elim
  | loadEventArtifacts selectors maximum => exact h
  | resolveEvidenceArtifacts requests maximum => exact h

/-- **One call.** Whatever the others do between its calls, a command appends no event but its
own, and returns the event its arguments are answered by. -/
theorem run_guarantees (hlog : s.log.filter (fun x => x.1 = i) = []) :
    Keeps P cmd faults i (Succeeded P cmd i) s ((cmd i).run P W) := by
  have herror : ∀ (b : CommandStore ι) e, Succeeded P cmd i b (.error e) := by
    intro b e o ho
    simp at ho
  refine keeps_ofExcept_bind (fun _ hvalid => ?_) (herror s)
  refine keeps_load_bind (fun a ha hI => ?_) herror
  refine keeps_ofExcept_bind (fun _ hne => ?_) (herror a)
  have hne := refuseIf_eq_ok.mp hne
  have hready : Ready cmd i (a.streams (cmd i).missionId) a :=
    ⟨List.prefix_refl _, ha.2.2.trans hlog⟩
  generalize hh : a.streams (cmd i).missionId = h at hready hne
  have hmissions : ∀ e ∈ h, e.missionId = (cmd i).missionId := hh ▸ hI.streams.mission _
  refine guarantees_bind (Guarantees.mono (Q := fun b r => (∀ o, r = .ok (.replay o) →
    Succeeded P cmd i b (.ok o)) ∧ ∀ p, r = .ok (.propose p) →
      Keeps P cmd faults i (Succeeded P cmd i) b ((cmd i).commit P p)) ?_ ?_)
  · refine keeps_ofExcept_bind (fun q hq => ?_) (fun e => by simp)
    have hq := mapError_eq_ok.mp hq
    refine guarantees_bind (guarantees_of_ends (draft_calls _ _ _) serves_reads (Others.refl i)
      (Own.refl i) Others.trans hI fun b r hb hIb hends => ⟨fun d hd => ?_, by simp⟩)
    subst hd
    have hb := hready.others hb
    obtain ⟨q', hq'⟩ := hIb.streams.accepted_of_ne (List.ne_nil_of_mem
      (hb.stream.subset (List.head_mem hne)))
    obtain ⟨f, hc, ⟨o, rfl, hf⟩ | ⟨p, rfl, hp⟩⟩ := draft_context hq hends
    · refine ⟨fun o' ho' => ?_, by simp⟩
      obtain rfl := Draft.replay.inj (Except.ok.inj ho')
      intro o' ho'
      obtain rfl := Except.ok.inj ho'
      have hanswered : Answered P (cmd i) h o.event := ⟨hvalid, q, f, o, hq, hc, hf, rfl⟩
      refine ⟨hanswered.longer hb.stream hq', ?_⟩
      rw [(hc.found hq hf).2, hb.log]
      rfl
    · refine keeps_ofExcept_bind (fun q₁ hq₁ => ⟨by simp, fun p' hp' => ?_⟩) (fun e => by simp)
      obtain rfl := Draft.propose.inj (Except.ok.inj hp')
      have hmission : p.event.missionId = (cmd i).missionId := by
        obtain ⟨first, rest, rfl, -, run⟩ := reduceEvents_eq_ok hq
        rw [hp.mission, (reduceLoop_identities run).1]
        exact hmissions first List.mem_cons_self
      exact keeps_commit hvalid hq hc hp hmission ⟨q₁, mapError_eq_ok.mp hq₁⟩ hb
  · rintro b r ⟨hreplay, hpropose⟩
    refine ⟨fun d hd => ?_, fun e _ => herror b e⟩
    subst hd
    cases d with
    | replay o => exact hreplay o rfl
    | propose p => exact hpropose p rfl

end Run

omit [DecidableEq ι] in
/-- A proposal is appended when nobody else calls. -/
theorem run_appends {c : VerificationCommand} {i : ι} {faults : Prop} {s : CommandStore ι}
    {p : Proposal} (hvalid : c.validateRequest = .ok ()) (hne : s.streams c.missionId ≠ [])
    (hprepare : c.prepare P W (s.streams c.missionId) = .done (.ok (.propose p)))
    (hhead : headDigest (s.streams p.event.missionId) = c.expectedHead)
    (hfresh : ∀ m, ∀ x ∈ s.streams m, x.eventDigest ≠ p.event.eventDigest) :
    Visits (Serves faults i) s (c.run P W) (s.append i p.event) := by
  have hnonempty : refuseIf (s.streams c.missionId = []) (CommandError.rejected
      "mission_not_found" (c.subject ++ " requires a retained mission stream")) = .ok () :=
    refuseIf_eq_ok.mpr hne
  rw [VerificationCommand.run, hvalid]
  refine .call (y := .ok (s.streams c.missionId)) ⟨rfl, .inl rfl⟩ ?_
  change Visits _ _ (ofExcept (refuseIf (s.streams c.missionId = []) _) >>= _) _
  rw [hnonempty]
  change Visits _ _ (c.prepare P W (s.streams c.missionId) >>= _) _
  rw [hprepare]
  change Visits _ _ (c.commit P p) _
  unfold VerificationCommand.commit VerificationCommand.append
  split
  · exact .call (y := .ok ()) (.inl ⟨rfl, hhead, hfresh, rfl⟩) .here
  · exact .call (y := .ok ()) (.inl ⟨rfl, hhead, hfresh, rfl⟩) .here

/-! ## Repeated calls -/

omit [DecidableEq ι] in
/-- A call whose event is retained ends with it, where the command can be repeated. -/
theorem Answered.repeats {c : VerificationCommand} {s : CommandStore ι} {e : EventV1}
    {q : MissionProjection} (ha : Answered P c (s.streams c.missionId) e)
    (hq : reduceEvents P (s.streams c.missionId) = .ok q) (hlive : c.Repeatable q) (k : ι) :
    ∃ o, o.event = e ∧ o.replayed = true ∧
      ∀ r s', Ends (Serves False k) s (c.run P W) r s' ↔ r = .ok o ∧ s' = s := by
  have hne := List.ne_nil_of_mem ha.answer.2
  obtain ⟨hvalid, q', f, o, hq', hc, hf, rfl⟩ := ha
  obtain rfl := Except.ok.inj (hq.symm.trans hq')
  refine ⟨o, rfl, (hc.found hq hf).2, fun r s' => ?_⟩
  have hnonempty : refuseIf (s.streams c.missionId = []) (CommandError.rejected
      "mission_not_found" (c.subject ++ " requires a retained mission stream")) = .ok () :=
    refuseIf_eq_ok.mpr hne
  have hloaded : ∀ next : List EventV1 → CommandProg CommandOutcome,
      (Ends (Serves False k) s (callStore (.load c.missionId) >>= next) r s' ↔
        Ends (Serves False k) s (next (s.streams c.missionId)) r s') := by
    intro next
    change Ends _ s (.call (.load c.missionId) fun y => (Prog.done y >>= next)) r s' ↔ _
    rw [ends_call]
    constructor
    · rintro ⟨y, b, ⟨rfl, rfl | ⟨hfalse, -⟩⟩, hn⟩
      · exact hn
      · exact hfalse.elim
    · exact fun hn => ⟨_, s, ⟨rfl, .inl rfl⟩, hn⟩
  rw [VerificationCommand.run, hvalid]
  change Ends _ s (callStore (.load c.missionId) >>= _) r s' ↔ _
  rw [hloaded, hnonempty]
  change Ends _ s (c.prepare P W (s.streams c.missionId) >>= _) r s' ↔ _
  rw [VerificationCommand.prepare, reduced_of_ok hq]
  change Ends _ s ((c.draft P W (s.streams c.missionId) q >>= _) >>= _) r s' ↔ _
  rw [hc.replays hq hlive hf]
  exact ends_done

/-! ## Clients -/

omit [DecidableEq ι] in
/-- A log that answers each command with one event holds one append of it at most. -/
theorem appends_le_one {cmd : ι → VerificationCommand} {s : CommandStore ι}
    (hs : Logged P cmd s) (c : VerificationCommand) :
    (s.log.filter fun x => cmd x.1 = c).length ≤ 1 := by
  have hdistinct := hs.distinct.sublist ((List.filter_sublist (l := s.log)
    (p := fun x => cmd x.1 = c)).map fun x => x.2.eventDigest)
  have hsame : ∀ x ∈ s.log.filter fun x => cmd x.1 = c,
      c.answer (s.streams c.missionId) = some x.2 := by
    intro x hx
    obtain ⟨hmem, hc⟩ := List.mem_filter.mp hx
    have hanswer := (hs.answered x hmem).answer.1
    rwa [of_decide_eq_true hc] at hanswer
  generalize s.log.filter (fun x => cmd x.1 = c) = l at hsame hdistinct
  match l with
  | [] => exact Nat.zero_le 1
  | [x] => exact le_rfl
  | x :: y :: l =>
    have hxy : x.2 = y.2 :=
      Option.some.inj ((hsame x (by simp)).symm.trans (hsame y (by simp)))
    simp [hxy] at hdistinct

/-- A list of length one at most has one member. -/
theorem eq_of_length_le_one {α : Type*} {l : List α} (hl : l.length ≤ 1) {a b : α} (ha : a ∈ l)
    (hb : b ∈ l) : a = b := by
  match l with
  | [] => simp at ha
  | [x] => exact (List.mem_singleton.mp ha).trans (List.mem_singleton.mp hb).symm
  | _ :: _ :: _ => simp at hl

/-- **Retried commands.** Clients call commands on one store in any interleaving. A command
appends at most one event ; every successful call returns it, and only the call that appended
it is not a replay. Once it is retained, the call can be repeated on every later store. -/
theorem command_retries (cmd : ι → VerificationCommand) {faults : Prop} {s : CommandStore ι}
    {B : Pool ι (CommandStore ι) StoreCall CommandError CommandOutcome}
    (hs : RetainedStreams P s) (hlog : s.log = [])
    (hrun : Pool.Run (Serves faults) ⟨s, fun i => (cmd i).run P W⟩ B) :
    (∀ c, (B.state.log.filter fun x => cmd x.1 = c).length ≤ 1) ∧
    (∀ i o, B.thread i = .done (.ok o) →
      o.event ∈ B.state.streams (cmd i).missionId ∧
      (o.replayed = false ↔ (i, o.event) ∈ B.state.log) ∧
      (∀ x ∈ B.state.log, cmd x.1 = cmd i → x.2 = o.event) ∧
      ∀ j o', B.thread j = .done (.ok o') → cmd j = cmd i →
        o'.event = o.event ∧ (i ≠ j → o.replayed = true ∨ o'.replayed = true)) ∧
    ∀ i e, ((i, e) ∈ B.state.log ∨ ∃ o, B.thread i = .done (.ok o) ∧ o.event = e) →
      ∀ (t : CommandStore ι) (q : MissionProjection) (k : ι),
        (∀ m, B.state.streams m <+: t.streams m) →
        reduceEvents P (t.streams (cmd i).missionId) = .ok q → (cmd i).Repeatable q →
        ∃ o, o.event = e ∧ o.replayed = true ∧
          ∀ r t', Ends (Serves False k) t ((cmd i).run P W) r t' ↔ r = .ok o ∧ t' = t := by
  have hstart : Logged P cmd s := ⟨hs, by simp [hlog], by simp [hlog]⟩
  have hcalls : ∀ i, Keeps P cmd faults i (Succeeded P cmd i) s ((cmd i).run P W) :=
    fun i => run_guarantees (by simp [hlog])
  have hstable : ∀ i {a b r}, Others i a b → Logged P cmd b → Succeeded P cmd i a r →
      Succeeded P cmd i b r := fun _ {_ _ _} => Succeeded.others
  obtain ⟨hlogged, hthreads⟩ := hrun.guarantees Others.refl (fun _ => Others.trans)
    (fun _ _ hij _ _ => Own.others hij) hstable hstart hcalls
  have hdone : ∀ i o, B.thread i = .done (.ok o) →
      Answered P (cmd i) (B.state.streams (cmd i).missionId) o.event ∧
      B.state.log.filter (fun x => x.1 = i) = if o.replayed then [] else [(i, o.event)] := by
    intro i o ho
    have h := hthreads i
    rw [ho] at h
    exact h o rfl
  have hone := appends_le_one hlogged
  have hreplayed : ∀ i o, B.thread i = .done (.ok o) →
      (o.replayed = false ↔ (i, o.event) ∈ B.state.log) := by
    intro i o ho
    have hown := (hdone i o ho).2
    constructor
    · intro hfalse
      simp only [hfalse, Bool.false_eq_true, if_false] at hown
      exact List.mem_of_mem_filter (hown ▸ List.mem_singleton_self (i, o.event))
    · intro hmem
      have hin : (i, o.event) ∈ B.state.log.filter fun x => x.1 = i :=
        List.mem_filter.mpr ⟨hmem, decide_eq_true rfl⟩
      rw [hown] at hin
      by_contra hreplayed
      simp [hreplayed] at hin
  refine ⟨hone, fun i o ho => ?_, fun i e he t q k ht hq hlive => ?_⟩
  · obtain ⟨hanswered, -⟩ := hdone i o ho
    refine ⟨hanswered.answer.2, hreplayed i o ho, fun x hx hc => ?_, fun j o' ho' hc => ?_⟩
    · have hx := (hlogged.answered x hx).answer.1
      rw [hc] at hx
      exact Option.some.inj (hx.symm.trans hanswered.answer.1)
    · have hother := (hdone j o' ho').1.answer.1
      rw [hc] at hother
      have hevent : o'.event = o.event :=
        Option.some.inj (hother.symm.trans hanswered.answer.1)
      refine ⟨hevent, fun hij => ?_⟩
      -- Two calls that both appended would be two appends of one command.
      by_contra hnone
      simp only [not_or, Bool.not_eq_true] at hnone
      have hi : (i, o.event) ∈ B.state.log.filter fun x => cmd x.1 = cmd i :=
        List.mem_filter.mpr ⟨(hreplayed i o ho).mp hnone.1, decide_eq_true rfl⟩
      have hj : (j, o'.event) ∈ B.state.log.filter fun x => cmd x.1 = cmd i :=
        List.mem_filter.mpr ⟨(hreplayed j o' ho').mp hnone.2, decide_eq_true hc⟩
      exact hij (congrArg Prod.fst (eq_of_length_le_one (hone (cmd i)) hi hj))
  · have hanswered : Answered P (cmd i) (B.state.streams (cmd i).missionId) e := by
      rcases he with he | ⟨o, ho, rfl⟩
      · exact hlogged.answered _ he
      · exact (hdone i o ho).1
    exact (hanswered.longer (ht _) hq).repeats hq hlive k

/-- The store of the sample mission with its first lease. -/
def sampleCommandStore : CommandStore (Fin 2) where
  streams m := if m = 100 then sampleAssigned else []
  log := []

theorem sampleCommandStore_loaded : sampleCommandStore.streams 100 = sampleAssigned := by
  simp only [sampleCommandStore, if_true]

theorem sampleCommandStore_empty {m : Digest} (hm : m ≠ 100) :
    sampleCommandStore.streams m = [] := by
  simp only [sampleCommandStore, hm, if_false]

theorem sampleCommandStore_retained :
    RetainedStreams sampleCommandPrimitives sampleCommandStore where
  accepted m := by
    by_cases hm : m = 100
    · subst hm
      obtain ⟨q, -, hq, -⟩ := sampleReassign_drafts
      exact .inr ⟨q, by rw [sampleCommandStore_loaded, hq]⟩
    · exact .inl (sampleCommandStore_empty hm)
  mission m e he := by
    by_cases hm : m = 100
    · subst hm
      have h : ∀ e ∈ sampleAssigned, e.missionId = 100 := by decide +kernel
      exact h e (sampleCommandStore_loaded ▸ he)
    · simp [sampleCommandStore_empty hm] at he
  distinct m := by
    by_cases hm : m = 100
    · subst hm
      rw [sampleCommandStore_loaded]
      decide +kernel
    · simp [sampleCommandStore_empty hm]

/-- The reduction that accepts the reassigned sample mission. -/
theorem sampleReassigned_reduces : ∃ q,
    reduceEvents sampleCommandPrimitives (sampleAssigned ++ [sampleReassigned]) = .ok q := by
  have h : (reduceEvents sampleCommandPrimitives
      (sampleAssigned ++ [sampleReassigned])).toOption.isSome := by decide +kernel
  cases hq : reduceEvents sampleCommandPrimitives (sampleAssigned ++ [sampleReassigned]) with
  | error m => simp [hq, Except.toOption] at h
  | ok q => exact ⟨q, rfl⟩

/-- The sample reassignment proposes its event for the sample stream. -/
theorem sampleReassign_prepares : ∃ p, p.event = sampleReassigned ∧
    VerificationCommand.prepare sampleCommandPrimitives sampleCommandEnv (.reassign sampleReassign)
      sampleAssigned = .done (.ok (.propose p)) := by
  obtain ⟨q, p, hq, hd, hp⟩ := sampleReassign_drafts
  obtain ⟨q', hq'⟩ := sampleReassigned_reduces
  refine ⟨p, hp, ?_⟩
  have hdraft : VerificationCommand.draft sampleCommandPrimitives sampleCommandEnv
      (.reassign sampleReassign) sampleAssigned q = .done (.ok (.propose p)) := by
    rw [VerificationCommand.draft, hd]
    rfl
  rw [VerificationCommand.prepare, reduced_of_ok hq, Prog.ok_bind, hdraft, Prog.ok_bind]
  dsimp only
  rw [hp, reduced_of_ok hq', Prog.ok_bind]
  rfl

/-- The load and the append of the sample reassignment. -/
theorem sampleReassign_visits : Visits (Serves True (0 : Fin 2)) sampleCommandStore
    ((VerificationCommand.reassign sampleReassign).run sampleCommandPrimitives sampleCommandEnv)
    (sampleCommandStore.append 0 sampleReassigned) := by
  obtain ⟨p, hp, hprepare⟩ := sampleReassign_prepares
  have hloaded :
      sampleCommandStore.streams (VerificationCommand.reassign sampleReassign).missionId =
        sampleAssigned := sampleCommandStore_loaded
  rw [← hp]
  refine run_appends (by decide +kernel) (by rw [hloaded]; exact List.cons_ne_nil _ _)
    (by rw [hloaded, hprepare]) (by rw [hp]; exact congrArg headDigest hloaded) fun m x hx => ?_
  have hfresh : ∀ x ∈ sampleAssigned, x.eventDigest ≠ sampleReassigned.eventDigest := by
    decide +kernel
  rw [hp]
  by_cases hm : m = 100
  · subst hm
    exact hfresh x (sampleCommandStore_loaded ▸ hx)
  · simp [sampleCommandStore_empty hm] at hx

/-- Two clients reassign the same lease. When the event of the first is retained, the second
replays it. -/
theorem command_retries_sample :
    ∃ o, o.event = sampleReassigned ∧ o.replayed = true ∧ ∀ r t',
      Ends (Serves False (1 : Fin 2)) (sampleCommandStore.append 0 sampleReassigned)
        ((VerificationCommand.reassign sampleReassign).run sampleCommandPrimitives
          sampleCommandEnv) r t' ↔
      r = .ok o ∧ t' = sampleCommandStore.append 0 sampleReassigned := by
  have hpool : ∃ rest, Pool.Run (Serves True) ⟨sampleCommandStore, fun _ : Fin 2 =>
      (VerificationCommand.reassign sampleReassign).run sampleCommandPrimitives sampleCommandEnv⟩
      ⟨sampleCommandStore.append 0 sampleReassigned, rest⟩ :=
    sampleReassign_visits.pool rfl
  obtain ⟨rest, hrun⟩ := hpool
  obtain ⟨q, hq⟩ := sampleReassigned_reduces
  refine (command_retries (fun _ => .reassign sampleReassign) sampleCommandStore_retained rfl
    hrun).2.2 0 sampleReassigned (.inl (List.mem_singleton_self _)) _ q 1
    (fun _ => List.prefix_refl _) ?_ trivial
  change reduceEvents _ ((sampleCommandStore.append 0 sampleReassigned).streams
    sampleReassigned.missionId) = _
  simp only [CommandStore.append, Function.update_self]
  rwa [show sampleCommandStore.streams sampleReassigned.missionId = sampleAssigned from
    sampleCommandStore_loaded]

end Etzio
