import Etzio.StorePredecessors

/-!
# Mission streams

The retained events of a mission, under any number of connections. An append compares
the head it was given with the retained one, so a stream only ever grows by one event at
its head, every retained stream is one the reducer accepts, and of the appends that name
one head at most one adds an event (`append_streams`).

`append_pending_integrity_event` answers a stale head by looking for the same event
retained with the same dossier : such a resubmission adds nothing and returns the
retained event (`Exec.appendOp_cases`). A head identifies its position because retained
digests are unique and no event hashes to `GENESIS_DIGEST`.
-/

open CheckedRun Rows

namespace Etzio

variable {E : Env}

/-! ## Decoded rows -/

/-- A mission's retained events. -/
def Tables.stream {V Q : Type} (t : Tables V Q) (m : Digest) : List EventV1 :=
  (t.missionRows m).map EventRow.canonical

/-- A row that decodes after the events before it. -/
structure RowDecodes (E : Env) (m : Digest) (events : List EventV1) (r : EventRow) : Prop where
  verified : r.canonical.verify E.events = .ok ()
  rowSeq : r.seq = events.length
  seq : r.canonical.seq = events.length
  missionId : r.canonical.missionId = m
  digest : r.digest = r.canonical.eventDigest
  prevDigest : r.prevDigest = r.canonical.prevDigest
  kind : r.kind = r.canonical.kind
  prev : r.canonical.prevDigest = headOf events

section Decode

variable {m : Digest} {events events' : List EventV1} {rows pre post : List EventRow}
  {r : EventRow}

theorem decodeRow_eq_ok : decodeRow E m events r = .ok events' ↔
    RowDecodes E m events r ∧ events' = events ++ [r.canonical] := by
  unfold decodeRow decodeEvent
  rw [unit_bind_eq_ok, unit_bind_eq_ok, mapError_eq_ok, refuseIf_eq_ok]
  push Not
  constructor
  · rintro ⟨hv, ⟨h1, h2, h3, h4, h5, h6, h7⟩, h⟩
    exact ⟨⟨hv, h1, h2, h3, h4, h5, h6, h7⟩, (Except.ok.inj h).symm⟩
  · rintro ⟨h, rfl⟩
    exact ⟨h.verified, ⟨h.rowSeq, h.seq, h.missionId, h.digest, h.prevDigest, h.kind, h.prev⟩, rfl⟩

theorem decodeRows_eq_map (h : rows.foldlM (decodeRow E m) [] = .ok events) :
    events = rows.map EventRow.canonical := by
  refine foldlM_invariant (fun h s => s = h.map EventRow.canonical) rfl ?_ h
  intro h s r s' _ ih hs
  rw [(decodeRow_eq_ok.mp hs).2, ih, List.map_append]
  rfl

/-- Every row of a decoded stream decodes after those before it. -/
theorem decodeRows_at (h : (pre ++ r :: post).foldlM (decodeRow E m) [] = .ok events) :
    RowDecodes E m (pre.map EventRow.canonical) r := by
  obtain ⟨s, u, hs, hu, -⟩ := foldlM_split h
  rw [← decodeRows_eq_map hs]
  exact (decodeRow_eq_ok.mp hu).1

theorem decodeStream_eq {t : E.Db} (h : decodeStream E t m = .ok events) :
    events = t.stream m :=
  decodeRows_eq_map h

end Decode

/-! ## Valid streams -/

/-- The events are numbered from 0, chained by digest from `GENESIS_DIGEST`, and the
reducer accepts them. -/
structure ValidStream (E : Env) (m : Digest) (events : List EventV1) : Prop where
  chain : ∀ pre e post, events = pre ++ e :: post →
    e.missionId = m ∧ e.seq = pre.length ∧ e.prevDigest = headOf pre ∧
      e.verify E.events = .ok ()
  lifecycle : events ≠ [] → ∃ x, reduceEvents E.events events = .ok x

/-- The streams of all missions decode, and the reducer accepts those that have events. -/
def StreamsDecode (t : E.Db) : Prop :=
  ∀ m, decodeStream E t m = .ok (t.stream m) ∧
    (t.stream m ≠ [] → ∃ x, reduceEvents E.events (t.stream m) = .ok x)

section Streams

variable {t t' : E.Db} {m : Digest} {e : EventV1} {r : AppendRequest E}

theorem StreamsDecode.valid (h : StreamsDecode t) (m : Digest) : ValidStream E m (t.stream m) where
  chain pre e post hsplit := by
    obtain ⟨rows, rest, hrows, rfl, hrest⟩ := List.map_eq_append_iff.mp hsplit
    obtain ⟨row, tail, rfl, rfl, rfl⟩ := List.map_eq_cons_iff.mp hrest
    have hdecode := (h m).1
    rw [decodeStream, hrows] at hdecode
    have hat := decodeRows_at hdecode
    exact ⟨hat.missionId, by simpa using hat.seq, hat.prev, hat.verified⟩
  lifecycle := (h m).2

/-- What the checks of an append establish. -/
structure Admits (t : E.Db) (r : AppendRequest E) : Prop where
  decoded : decodeStream E t r.event.missionId = .ok (t.stream r.event.missionId)
  head : r.expectedHead = headOf (t.stream r.event.missionId)
  notTerminal : ∀ x ∈ (t.stream r.event.missionId).getLast?, x.kind ∉ terminalKinds
  seq : r.event.seq = (t.stream r.event.missionId).length
  prev : r.event.prevDigest = headOf (t.stream r.event.missionId)
  lifecycle : ∃ x, reduceEvents E.events (t.stream r.event.missionId ++ [r.event]) = .ok x

theorem admitAppend_spec (h : admitAppend E t r = .ok ()) : Admits t r := by
  unfold admitAppend at h
  obtain ⟨u, -, h⟩ := bind_eq_ok.mp h
  obtain ⟨-, h⟩ := unit_bind_eq_ok.mp h
  obtain ⟨-, h⟩ := unit_bind_eq_ok.mp h
  obtain ⟨-, h⟩ := unit_bind_eq_ok.mp h
  obtain ⟨events, hprep, -⟩ := bind_eq_ok.mp h
  unfold prepareAppend at hprep
  obtain ⟨x, hx, hprep⟩ := bind_eq_ok.mp hprep
  obtain ⟨hhead, hprep⟩ := unit_bind_eq_ok.mp hprep
  obtain ⟨hterm, hprep⟩ := unit_bind_eq_ok.mp hprep
  obtain ⟨hseq, hprep⟩ := unit_bind_eq_ok.mp hprep
  obtain ⟨hprev, hprep⟩ := unit_bind_eq_ok.mp hprep
  obtain ⟨hlife, -⟩ := unit_bind_eq_ok.mp hprep
  unfold verifiedStream at hx
  obtain ⟨y, hdec, hx⟩ := bind_eq_ok.mp hx
  obtain ⟨-, hx⟩ := unit_bind_eq_ok.mp hx
  obtain ⟨-, hx⟩ := unit_bind_eq_ok.mp hx
  obtain rfl : y = x := Except.ok.inj hx
  obtain rfl := decodeStream_eq hdec
  unfold validateProposedLifecycle at hlife
  obtain ⟨z, hz, -⟩ := bind_eq_ok.mp hlife
  rw [refuseIf_eq_ok] at hhead hterm hseq hprev
  push Not at hhead hterm hseq hprev
  exact ⟨hdec, hhead, hterm, hseq, hprev, z, mapError_eq_ok.mp hz⟩

theorem missionRows_of_ne {rows : List EventRow} (he : t'.events = t.events ++ rows)
    (hm : ∀ x ∈ rows, x.missionId ≠ m) : t'.missionRows m = t.missionRows m := by
  have hnil : rows.filter (fun x => x.missionId = m) = [] :=
    List.filter_eq_nil_iff.mpr fun x hx => by simpa using hm x hx
  rw [Tables.missionRows, Tables.missionRows, he, List.filter_append, hnil, List.append_nil]

/-- The appended row is the last one of its mission. -/
theorem Admits.missionRows_eq (h : Admits t r) (he : t'.events = t.events ++ [.ofEvent r.event]) :
    t'.missionRows r.event.missionId =
      t.missionRows r.event.missionId ++ [.ofEvent r.event] := by
  have hrow : [EventRow.ofEvent r.event].filter (fun x => x.missionId = r.event.missionId) =
      [.ofEvent r.event] := by
    simp [EventRow.ofEvent]
  rw [Tables.missionRows, he, List.filter_append, hrow]
  refine orderBy_snoc fun x hx => ?_
  obtain ⟨pre, post, hsplit⟩ := List.append_of_mem (mem_orderBy (f := EventRow.seq).mpr hx)
  have hdecode := h.decoded
  rw [decodeStream, Tables.missionRows, hsplit] at hdecode
  have hseq := h.seq
  rw [Tables.stream, Tables.missionRows, hsplit] at hseq
  have hat := (decodeRows_at hdecode).rowSeq
  change x.seq ≤ r.event.seq
  simp only [List.length_map, List.length_append, List.length_cons] at hseq hat
  omega

theorem Admits.stream_eq (h : Admits t r) (he : t'.events = t.events ++ [.ofEvent r.event]) :
    t'.stream r.event.missionId = t.stream r.event.missionId ++ [r.event] := by
  rw [Tables.stream, h.missionRows_eq he, List.map_append]
  rfl

theorem stream_of_ne (he : t'.events = t.events ++ [.ofEvent e]) (hm : e.missionId ≠ m) :
    t'.stream m = t.stream m := by
  rw [Tables.stream, missionRows_of_ne he (by simpa [EventRow.ofEvent] using hm)]
  rfl

/-- A verified event that was read back decodes at the end of its stream. -/
theorem Admits.streamsDecode (h : Admits t r) (hd : StreamsDecode t)
    (he : t'.events = t.events ++ [.ofEvent r.event])
    (hv : r.event.verify E.events = .ok ()) : StreamsDecode t' := by
  intro m
  by_cases hm : r.event.missionId = m
  · subst hm
    have hdecode : decodeStream E t' r.event.missionId =
        .ok (t'.stream r.event.missionId) := by
      rw [decodeStream, h.missionRows_eq he, h.stream_eq he, foldlM_append_eq_ok]
      refine ⟨_, h.decoded, foldlM_singleton_eq_ok.mpr (decodeRow_eq_ok.mpr ⟨?_, rfl⟩)⟩
      exact ⟨hv, h.seq, h.seq, rfl, rfl, rfl, rfl, h.prev⟩
    refine ⟨hdecode, fun _ => ?_⟩
    rw [h.stream_eq he]
    exact h.lifecycle
  · have hrows := missionRows_of_ne (m := m) he (by simpa [EventRow.ofEvent] using hm)
    rw [stream_of_ne he hm, decodeStream, hrows]
    exact hd m

theorem eventForIntegrityDigest_eq_ok {d : Digest}
    (h : eventForIntegrityDigest E t d = .ok e) :
    e.eventDigest = d ∧ e.verify E.events = .ok () ∧
      ∃ row ∈ t.events, row.digest = d ∧ row.canonical = e := by
  unfold eventForIntegrityDigest at h
  obtain ⟨row, hrow, h⟩ := orRefuse_bind_eq_ok.mp h
  obtain ⟨hv, h⟩ := unit_bind_eq_ok.mp h
  obtain ⟨hd, h⟩ := unit_bind_eq_ok.mp h
  obtain rfl := Except.ok.inj h
  rw [refuseIf_eq_ok, not_not] at hd
  exact ⟨hd, mapError_eq_ok.mp hv, row, mem_of_findBy hrow, key_of_findBy hrow, rfl⟩

/-- A write leaves the events alone or is an append of one verified event. -/
theorem Written.events (h : Written t t') :
    t'.events = t.events ∨ ∃ r : AppendRequest E, Admits t r ∧
      r.event.verify E.events = .ok () ∧ t'.events = t.events ++ [.ofEvent r.event] := by
  cases h with
  | appended r v hchecks _ h hret _ =>
    exact .inr ⟨r, admitAppend_spec hchecks, (eventForIntegrityDigest_eq_ok hret).2.1,
      by rw [h.eq]⟩
  | appendedPending r x p hchecks _ h =>
    exact .inr ⟨r, admitAppend_spec hchecks, (eventForIntegrityDigest_eq_ok h.retained).2.1,
      h.events⟩
  | phase d phase l l' hl h => exact .inl h.events
  | observed o h => exact .inl (by rw [h.eq])
  | decided d h => exact .inl (by rw [h.eq])
  | recoveryEnrolled x h => exact .inl (by rw [h.eq])
  | modeledEnrolled q h => exact .inl (by rw [h.eq])
  | qualifiedEnrolled q h => exact .inl (by rw [h.eq])
  | checkpointed c h => exact .inl (by rw [h.eq])

theorem stream_eq_of_events (h : t'.events = t.events) : t'.stream m = t.stream m := by
  rw [Tables.stream, Tables.missionRows, h]
  rfl

theorem Written.streamsDecode (h : Written t t') (hd : StreamsDecode t) : StreamsDecode t' := by
  rcases h.events with he | ⟨r, hadmits, hv, he⟩
  · intro m
    rw [decodeStream, stream_eq_of_events he, Tables.missionRows, he]
    exact hd m
  · exact hadmits.streamsDecode hd he hv

/-- A stream changes by one event at its head, and a terminal stream does not change. -/
theorem Written.stream_cases (h : Written t t') (m : Digest) :
    t'.stream m = t.stream m ∨ ∃ e, t'.stream m = t.stream m ++ [e] ∧
      ∀ x ∈ (t.stream m).getLast?, x.kind ∉ terminalKinds := by
  rcases h.events with he | ⟨r, hadmits, -, he⟩
  · exact .inl (stream_eq_of_events he)
  · by_cases hm : r.event.missionId = m
    · subst hm
      exact .inr ⟨r.event, hadmits.stream_eq he, hadmits.notTerminal⟩
    · exact .inl (stream_of_ne he hm)

end Streams

/-! ## Heads -/

section Heads

variable {t : E.Db} {m : Digest} {pre post : List EventV1} {e : EventV1}

theorem headOf_append_of_ne_nil (h : post ≠ []) : headOf (pre ++ post) = headOf post := by
  rw [headOf, headOf, List.getLast?_append_of_ne_nil _ h]

theorem headOf_mem (h : pre ≠ []) : ∃ x ∈ pre, headOf pre = x.eventDigest := by
  obtain ⟨x, hx⟩ := Option.ne_none_iff_exists'.mp (mt List.getLast?_eq_none_iff.mp h)
  exact ⟨x, List.mem_of_getLast? hx, by rw [headOf, hx]; rfl⟩

/-- Retained digests are unique, so a stream does not repeat one. -/
theorem StreamsDecode.nodup_digests (h : StreamsDecode t) (hk : t.Keys) (m : Digest) :
    ((t.stream m).map EventV1.eventDigest).Nodup := by
  have hrows : (t.missionRows m).map EventRow.digest =
      (t.stream m).map EventV1.eventDigest := by
    rw [Tables.stream, List.map_map]
    refine List.map_congr_left fun r hr => ?_
    obtain ⟨pre, post, hsplit⟩ := List.append_of_mem hr
    have hdecode := (h m).1
    rw [decodeStream, hsplit] at hdecode
    exact (decodeRows_at hdecode).digest
  rw [← hrows]
  have hperm : ((t.missionRows m).map EventRow.digest).Perm
      ((t.events.filter fun r => r.missionId = m).map EventRow.digest) := orderBy_perm.map _
  exact hperm.nodup_iff.mpr (hk.eventDigest.sublist (List.filter_sublist.map _))

/-- A later head differs from an earlier one, and from `GENESIS_DIGEST` when no event
hashes to it. -/
theorem StreamsDecode.headOf_ne (h : StreamsDecode t) (hk : t.Keys)
    (hhash : ∀ b, E.events.eventId b ≠ genesisDigest)
    (hsplit : t.stream m = pre ++ e :: post) : headOf (t.stream m) ≠ headOf pre := by
  have hlast : headOf (t.stream m) = headOf (e :: post) := by
    rw [hsplit, headOf_append_of_ne_nil (by simp)]
  obtain ⟨x, hx, hxd⟩ := headOf_mem (show e :: post ≠ [] by simp)
  rw [hlast, hxd]
  by_cases hpre : pre = []
  · subst hpre
    -- The digest of a verified event is a hash.
    obtain ⟨a, b, hab⟩ := List.append_of_mem (l := t.stream m) (by rw [hsplit]; exact hx)
    have hv := ((h.valid m).chain a x b hab).2.2.2
    unfold EventV1.verify at hv
    obtain ⟨-, hv⟩ := unit_bind_eq_ok.mp hv
    obtain ⟨-, hv⟩ := unit_bind_eq_ok.mp hv
    rw [refuseIf_eq_ok, not_not] at hv
    rw [hv]
    exact hhash _
  · obtain ⟨y, hy, hyd⟩ := headOf_mem hpre
    rw [hyd]
    intro heq
    have hnodup := h.nodup_digests hk m
    rw [hsplit, List.map_append, List.nodup_append] at hnodup
    exact hnodup.2.2 y.eventDigest (List.mem_map_of_mem hy) x.eventDigest
      (List.mem_map_of_mem hx) heq.symm

end Heads

/-! ## Runs -/

section Runs

variable {s s' s'' : Sys E} {ρ : Type} {i : ℕ} {x : Txn E ρ} {m : Digest}

theorem Sys.Reachable.streamsDecode (h : s.Reachable) : StreamsDecode s.tables := by
  refine h.invariant (fun _ _ hd hx => (Txn.body_written hx).streamsDecode hd) fun m => ?_
  exact ⟨rfl, fun hne => absurd rfl hne⟩

/-- A step leaves a stream alone or adds one event to a stream that has not ended. -/
theorem Step.stream_cases (h : CacheSound s) {r : Except StoreError ρ} (hs : Step s i x r s')
    (m : Digest) :
    s'.tables.stream m = s.tables.stream m ∨
      ∃ e, s'.tables.stream m = s.tables.stream m ++ [e] ∧
        ∀ y ∈ (s.tables.stream m).getLast?, y.kind ∉ terminalKinds := by
  rcases hs.written h with heq | ⟨_, _, -, -, hx⟩
  · exact .inl (by rw [heq])
  · exact (Txn.body_written hx).stream_cases m

/-- Streams only grow. -/
theorem Reaches.stream_prefix (h : CacheSound s) (hr : Reaches s s') (m : Digest) :
    s.tables.stream m <+: s'.tables.stream m := by
  refine hr.invariant (P := fun t => s.tables.stream m <+: t.stream m) ?_ h List.prefix_rfl
  intro σ y cap t t' published reply _ _ hp hx
  rcases (Txn.body_written hx).stream_cases m with heq | ⟨e, he, -⟩
  · rwa [heq]
  · exact hp.trans ⟨[e], he.symm⟩

/-- A stream that has ended stays as it is. -/
theorem Reaches.stream_of_terminal (h : CacheSound s) (hr : Reaches s s') {e : EventV1}
    (he : (s.tables.stream m).getLast? = some e) (hterm : e.kind ∈ terminalKinds) :
    s'.tables.stream m = s.tables.stream m := by
  refine hr.invariant (P := fun t => t.stream m = s.tables.stream m) ?_ h rfl
  intro σ y cap t t' published reply _ _ hp hx
  rcases (Txn.body_written hx).stream_cases m with heq | ⟨e', -, hopen⟩
  · rw [heq, hp]
  · exact absurd hterm (hopen e (by rw [hp, he]; rfl))

/-- An append raises and leaves the store unchanged, or it adds its event at the head it
names. -/
theorem Step.append_cases {r : AppendRequest E} {y : Except StoreError EventV1}
    (hs : Step s i (.appendVerifiedEvent r) y s') :
    ((∃ e, y = .error e) ∧ s'.tables = s.tables) ∨
      y = .ok r.event ∧ Admits s.tables r ∧
        s'.tables.stream r.event.missionId =
          s.tables.stream r.event.missionId ++ [r.event] := by
  cases hs with
  | invalid => exact .inl ⟨⟨_, rfl⟩, rfl⟩
  | refused => exact .inl ⟨⟨_, rfl⟩, rfl⟩
  | interrupted => exact .inl ⟨⟨_, rfl⟩, rfl⟩
  | unchanged _ hx =>
    obtain ⟨u, hu, -⟩ := appendVerifiedEvent_spec (transact_eq_ok.mp hx).2
    simp at hu
  | wrote _ hx _ =>
    obtain ⟨u, hu, hchecks, hrows, hcheck, hfk⟩ := appendVerifiedEvent_spec (transact_eq_ok.mp hx).2
    obtain ⟨⟨rfl, -⟩, rfl⟩ := by simpa using hu
    have hadmits := admitAppend_spec hchecks
    exact .inr ⟨rfl, hadmits, hadmits.stream_eq (appendRows_events hrows)⟩

end Runs

/-! ## Append operations -/

/-- The public append operations. -/
inductive AppendOp (E : Env)
  | append (e : EventV1) (expectedHead : Digest)
  | evidence (e : EventV1) (expectedHead : Digest) (staging : E.Staging)
  | receipt (e : EventV1) (expectedHead : Digest) (staging : E.Staging)
  | pending (r : PendingRequest E)

/-- The append an operation makes. -/
def AppendOp.request : AppendOp E → AppendRequest E
  | .append e h => ⟨e, h, none, none⟩
  | .evidence e h s => ⟨e, h, some s, none⟩
  | .receipt e h s => ⟨e, h, some s, none⟩
  | .pending r => r.append

/-- The program of an operation. -/
def AppendOp.program : AppendOp E → Program E EventV1
  | .append e h => Etzio.append e h
  | .evidence e h s => appendEvidenceEvent e h s
  | .receipt e h s => appendReceiptAdmission e h s
  | .pending r => appendPendingIntegrityEvent r

/-- Every transaction of the operation left the tables alone. -/
def Quiet (own : List (E.Db × E.Db)) : Prop := ∀ c ∈ own, c.2 = c.1

/-- The request's event and dossier are retained, at the head the request names. -/
structure PendingRequest.Retained (r : PendingRequest E) (t : E.Db) : Prop where
  head : r.expectedHead = r.event.prevDigest
  event : ∃ row ∈ t.events, row.digest = r.event.eventDigest ∧ row.canonical = r.event
  dossier : ∃ row ∈ t.pending, row.eventDigest = r.event.eventDigest ∧ row.record = r.pending

section Operations

variable {s s' : Sys E} {i : ℕ} {ρ : Type} {y : Except StoreError ρ} {own : List (E.Db × E.Db)}

theorem Quiet.cons {c : E.Db × E.Db} (hc : c.2 = c.1) (h : Quiet own) : Quiet (c :: own) :=
  List.forall_mem_cons.mpr ⟨hc, h⟩

theorem Quiet.nil : Quiet ([] : List (E.Db × E.Db)) := List.forall_mem_nil _

theorem Exec.of_guarded {g : Except StoreError Unit} {p : Program E ρ}
    (h : Exec i s (.guarded g p) y own s') :
    (∃ e, y = .error e) ∧ Quiet own ∨ Exec i s p y own s' := by
  unfold Program.guarded at h
  split at h
  · cases h with
    | done => exact .inl ⟨⟨_, rfl⟩, Quiet.nil⟩
  · exact .inr h

/-- A read leaves the tables alone and returns what its query says. -/
theorem Step.read {x : Txn E ρ} {q : E.Db → Except StoreError ρ}
    (hbody : ∀ cap t, x.body E cap t = readOnly E (q t)) (h : Step s i x y s') :
    s'.tables = s.tables ∧ ∀ v, y = .ok v → q s.tables = .ok v := by
  cases h with
  | invalid => exact ⟨rfl, by simp⟩
  | refused => exact ⟨rfl, by simp⟩
  | interrupted => exact ⟨rfl, by simp⟩
  | unchanged _ hx =>
    refine ⟨rfl, fun v hv => ?_⟩
    obtain rfl := Except.ok.inj hv
    have hq := (transact_eq_ok.mp hx).2
    rw [hbody] at hq
    exact (readOnly_unchanged hq).1
  | wrote _ hx _ =>
    have hq := (transact_eq_ok.mp hx).2
    rw [hbody] at hq
    simpa using (readOnly_unchanged hq).2

theorem Exec.of_done {r : Except StoreError ρ} (h : Exec i s (.done r) y own s') :
    y = r ∧ own = [] ∧ s' = s := by
  cases h with
  | done => exact ⟨rfl, rfl, rfl⟩

/-- A program that begins with a read. -/
theorem Exec.of_read {σ : Type} {x : Txn E σ} {next : Except StoreError σ → Program E ρ}
    {q : E.Db → Except StoreError σ} (hbody : ∀ cap t, x.body E cap t = readOnly E (q t))
    (h : Exec i s (.transaction x next) y own s') :
    ∃ s₁ s₂ z rest, Reaches s s₁ ∧ Reaches s₁ s₂ ∧ (∀ v, z = .ok v → q s₁.tables = .ok v) ∧
      Exec i s₂ (next z) y rest s' ∧ own = (s₁.tables, s₁.tables) :: rest := by
  cases h with
  | transaction hr hs hn =>
    obtain ⟨htables, hread⟩ := hs.read hbody
    exact ⟨_, _, _, _, hr, Reaches.refl.step hs, hread, hn, by rw [htables]⟩

/-- The handler of a stale head only reads, and it returns what was retained before. -/
theorem Exec.reconcile_cases {r : PendingRequest E} {stale : StoreError}
    {y : Except StoreError EventV1} (h : Exec i s (r.reconcile stale) y own s') :
    Quiet own ∧ ((∃ e, y = .error e) ∨ y = .ok r.event ∧ ∃ s₁ s₂ l, Reaches s s₁ ∧
      Reaches s₁ s₂ ∧ Reaches s₂ s' ∧ r.expectedHead = r.event.prevDigest ∧
      loadIntegrityLineage E s₁.tables r.event.eventDigest = .ok (some l) ∧
      l.pending = r.pending ∧
      loadIntegrityEvent E s₂.tables r.event.eventDigest = .ok (some r.event)) := by
  unfold PendingRequest.reconcile at h
  rcases h.of_guarded with ⟨he, hq⟩ | h
  · exact ⟨hq, .inl he⟩
  obtain ⟨s₁, t₁, z₁, own₁, hr₁, hstep₁, hread₁, h₁, rfl⟩ :=
    h.of_read (q := fun t => loadIntegrityLineage E t _) fun _ _ => rfl
  cases z₁ with
  | error e =>
    obtain ⟨rfl, rfl, -⟩ := h₁.of_done
    exact ⟨.cons rfl .nil, .inl ⟨e, rfl⟩⟩
  | ok lineage =>
    obtain ⟨s₂, t₂, z₂, own₂, hr₂, hstep₂, hread₂, h₂, rfl⟩ :=
      h₁.of_read (q := fun t => loadIntegrityEvent E t _) fun _ _ => rfl
    cases z₂ with
    | error e =>
      obtain ⟨rfl, rfl, -⟩ := h₂.of_done
      exact ⟨.cons rfl (.cons rfl .nil), .inl ⟨e, rfl⟩⟩
    | ok retained =>
      dsimp only at h₂
      split at h₂
      · obtain ⟨rfl, rfl, -⟩ := h₂.of_done
        exact ⟨.cons rfl (.cons rfl .nil), .inl ⟨_, rfl⟩⟩
      · rename_i l
        split_ifs at h₂ with hsame hevent
        · -- The same event with the same dossier : its lineage is verified once more.
          obtain ⟨hhead, hret, hpend⟩ := hsame
          obtain ⟨s₃, t₃, z₃, own₃, hr₃, hstep₃, -, h₃, rfl⟩ :=
            h₂.of_read (q := fun t => predecessorLineages E t _) fun _ _ => rfl
          cases z₃ with
          | error e =>
            obtain ⟨rfl, rfl, -⟩ := h₃.of_done
            exact ⟨.cons rfl (.cons rfl (.cons rfl .nil)), .inl ⟨e, rfl⟩⟩
          | ok previous =>
            cases h₃ with
            | @read _ s₄ _ _ _ _ hr₄ h₄ =>
              obtain ⟨rfl, rfl, rfl⟩ := h₄.of_done
              refine ⟨.cons rfl (.cons rfl (.cons rfl .nil)), ?_⟩
              cases hv : verifyQualifiedLineage E s'.tables l previous.1 (some r.bundles) with
              | error e => exact .inl ⟨e, rfl⟩
              | ok u =>
                exact .inr ⟨rfl, s₁, s₂, l, hr₁, hstep₁.trans hr₂,
                  ((hstep₂.trans hr₃).trans hstep₃).trans hr₄, hhead, hread₁ _ rfl, hpend,
                  hret ▸ hread₂ _ rfl⟩
        · obtain ⟨rfl, rfl, -⟩ := h₂.of_done
          exact ⟨.cons rfl (.cons rfl .nil), .inl ⟨_, rfl⟩⟩
        · obtain ⟨rfl, rfl, -⟩ := h₂.of_done
          exact ⟨.cons rfl (.cons rfl .nil), .inl ⟨_, rfl⟩⟩

/-- Pending rows are never removed. -/
theorem Written.pending_subset {t t' : E.Db} (h : Written t t') : t.pending ⊆ t'.pending := by
  intro q hq
  cases h with
  | appended r v _ _ h => rw [h.eq]; exact hq
  | appendedPending r x p _ _ h => exact h.grows.pending.mem hq
  | phase d phase l l' hl h => exact h.grows.pending.mem hq
  | observed o h => rw [h.eq]; exact hq
  | decided d h => rw [h.eq]; exact hq
  | recoveryEnrolled x h => rw [h.eq]; exact hq
  | modeledEnrolled p h => rw [h.eq]; exact hq
  | qualifiedEnrolled x h => rw [h.eq]; exact hq
  | checkpointed c h => rw [h.eq]; exact hq

/-- Event rows are never removed. -/
theorem Written.events_subset {t t' : E.Db} (h : Written t t') : t.events ⊆ t'.events := by
  intro q hq
  rcases h.events with he | ⟨r, -, -, he⟩
  · rwa [he]
  · rw [he]
    exact List.mem_append_left _ hq

theorem Reaches.rows_subset (h : CacheSound s) (hr : Reaches s s') :
    s.tables.events ⊆ s'.tables.events ∧ s.tables.pending ⊆ s'.tables.pending := by
  refine hr.invariant (P := fun t => s.tables.events ⊆ t.events ∧ s.tables.pending ⊆ t.pending)
    ?_ h ⟨List.Subset.refl _, List.Subset.refl _⟩
  rintro σ x cap t t' published reply _ _ ⟨he, hp⟩ hx
  have hw := Txn.body_written hx
  exact ⟨List.Subset.trans he hw.events_subset, List.Subset.trans hp hw.pending_subset⟩

/-- What the handler of a stale head returns is still retained. -/
theorem Exec.reconcile_retained {r : PendingRequest E} {stale : StoreError} {e : EventV1}
    (hsound : CacheSound s) (h : Exec i s (r.reconcile stale) (.ok e) own s') :
    e = r.event ∧ r.Retained s'.tables := by
  rcases h.reconcile_cases.2 with ⟨x, hx⟩ | ⟨he, s₁, s₂, l, hr₁, hr₂, hr₃, hhead, hl, hpend, hev⟩
  · cases hx
  have hsound₁ := hsound.reaches hr₁.foreignReaches
  have hsound₂ := hsound₁.reaches hr₂.foreignReaches
  refine ⟨Except.ok.inj he, hhead, ?_, ?_⟩
  · unfold loadIntegrityEvent at hev
    obtain ⟨-, hev⟩ := unit_bind_eq_ok.mp hev
    split_ifs at hev
    · obtain ⟨x, hx, hev⟩ := bind_eq_ok.mp hev
      obtain rfl : x = r.event := Option.some.inj (Except.ok.inj hev)
      obtain ⟨-, -, row, hrow, hd, hc⟩ := eventForIntegrityDigest_eq_ok hx
      exact ⟨row, (hr₃.rows_subset hsound₂).1 hrow, hd, hc⟩
    · simp [pure, Except.pure] at hev
  · obtain ⟨row, hlf⟩ := loadIntegrityLineage_some hl
    exact ⟨row, ((hr₂.trans hr₃).rows_subset hsound₁).2 (mem_of_findBy hlf.row),
      key_of_findBy hlf.row, hlf.pending.symm.trans hpend⟩

/-- How an append operation ends : it raises and changes nothing, its append
transaction adds the event, or, for a pending request, what it asks for was retained
already and it changes nothing. -/
inductive AppendEnd (i : ℕ) (s : Sys E) (op : AppendOp E) (own : List (E.Db × E.Db))
    (s' : Sys E) : Except StoreError EventV1 → Prop
  | raised (e : StoreError) (h : Quiet own) : AppendEnd i s op own s' (.error e)
  | appended (s₁ s₂ : Sys E) (hr : Reaches s s₁)
      (hs : Step s₁ i (.appendVerifiedEvent op.request) (.ok op.request.event) s₂)
      (hr' : Reaches s₂ s') (h : ∀ c ∈ own, c.2 = c.1 ∨ c = (s₁.tables, s₂.tables)) :
      AppendEnd i s op own s' (.ok op.request.event)
  | resubmitted (r : PendingRequest E) (hop : op = .pending r) (hr : r.Retained s'.tables)
      (h : Quiet own) : AppendEnd i s op own s' (.ok op.request.event)

/-- The operations that are one guarded append. -/
theorem Exec.of_append (op : AppendOp E) {g g' : Except StoreError Unit}
    {y : Except StoreError EventV1} (h : Exec i s (.guarded g (.guarded g'
      (.transaction (.appendVerifiedEvent op.request) .done))) y own s') :
    AppendEnd i s op own s' y := by
  rcases h.of_guarded with ⟨⟨e, rfl⟩, hq⟩ | h
  · exact .raised e hq
  rcases h.of_guarded with ⟨⟨e, rfl⟩, hq⟩ | h
  · exact .raised e hq
  cases h with
  | transaction hr hs hn =>
    obtain ⟨rfl, rfl, rfl⟩ := hn.of_done
    rcases hs.append_cases with ⟨⟨e, rfl⟩, htables⟩ | ⟨rfl, -⟩
    · exact .raised e (.cons htables .nil)
    · exact .appended _ _ hr hs .refl (by simp)

/-- The append of a pending request, with its handler. -/
theorem Exec.of_pendingAppend {r : PendingRequest E} {y : Except StoreError EventV1}
    (hsound : CacheSound s) (h : Exec i s (.transaction (.appendVerifiedEvent r.append) fun
      | .ok e => .done (.ok e)
      | .error e => if e.kind = .staleHead then r.reconcile e else .done (.error e)) y own s') :
    AppendEnd i s (.pending r) own s' y := by
  cases h with
  | transaction hr hs hn =>
    rcases hs.append_cases with ⟨⟨e, rfl⟩, htables⟩ | ⟨rfl, -⟩
    · dsimp only at hn
      split_ifs at hn
      · have hsound' := hsound.reaches (hr.step hs).foreignReaches
        have hquiet := Quiet.cons (c := (_, _)) htables hn.reconcile_cases.1
        cases y with
        | error e' => exact .raised e' hquiet
        | ok e' =>
          obtain ⟨rfl, hret⟩ := hn.reconcile_retained hsound'
          exact .resubmitted r rfl hret hquiet
      · obtain ⟨rfl, rfl, rfl⟩ := hn.of_done
        exact .raised e (.cons htables .nil)
    · obtain ⟨rfl, rfl, rfl⟩ := hn.of_done
      exact .appended _ _ hr hs .refl (by simp)

/-- An operation that first runs elsewhere without changing anything. -/
theorem AppendEnd.after {s₀ : Sys E} {op : AppendOp E} {y : Except StoreError EventV1}
    {c : E.Db × E.Db} (hr : Reaches s₀ s) (hc : c.2 = c.1) (h : AppendEnd i s op own s' y) :
    AppendEnd i s₀ op (c :: own) s' y := by
  cases h with
  | raised e h => exact .raised e (h.cons hc)
  | appended s₁ s₂ hr₁ hs hr₂ h =>
    exact .appended s₁ s₂ (hr.trans hr₁) hs hr₂ (List.forall_mem_cons.mpr ⟨.inl hc, h⟩)
  | resubmitted r hop hret h => exact .resubmitted r hop hret (h.cons hc)

/-- Every append operation ends in one of these ways. -/
theorem Exec.appendOp_cases {op : AppendOp E} {y : Except StoreError EventV1}
    (hsound : CacheSound s) (h : Exec i s op.program y own s') : AppendEnd i s op own s' y := by
  cases op with
  | append e hd => exact Exec.of_append (.append e hd) h
  | evidence e hd st => exact Exec.of_append (.evidence e hd st) h
  | receipt e hd st => exact Exec.of_append (.receipt e hd st) h
  | pending r =>
    obtain ⟨s₁, t₁, z, own₁, hr₁, hstep₁, -, h₁, rfl⟩ :=
      Exec.of_read (q := fun t => .ok (acceptanceMode t)) (fun _ _ => rfl) h
    refine AppendEnd.after (hr₁.trans hstep₁) rfl ?_
    cases z with
    | error e =>
      obtain ⟨rfl, rfl, -⟩ := h₁.of_done
      exact .raised e .nil
    | ok mode =>
      dsimp only at h₁
      split_ifs at h₁ with hmode
      · obtain ⟨rfl, rfl, -⟩ := h₁.of_done
        exact .raised _ .nil
      · rcases h₁.of_guarded with ⟨⟨e, rfl⟩, hq⟩ | h₂
        · exact .raised e hq
        · exact Exec.of_pendingAppend (hsound.reaches (hr₁.trans hstep₁).foreignReaches) h₂

end Operations

/-! ## The streams under interleaved appends -/

/-- What holds of the mission streams in a state, at every step and along every run from
there. -/
structure StreamLaws (s : Sys E) : Prop where
  valid : ∀ m, ValidStream E m (s.tables.stream m)
  /-- A step changes a stream by one event at most, at its end. -/
  appendOnly : ∀ {ρ : Type} {i : ℕ} {x : Txn E ρ} {y : Except StoreError ρ} {s' : Sys E},
    Step s i x y s' → ∀ m, s'.tables.stream m = s.tables.stream m ∨
      ∃ e, s'.tables.stream m = s.tables.stream m ++ [e]
  /-- An append transaction raises and changes nothing, or adds its event at the head it
  names. -/
  compareAndAppend : ∀ {i : ℕ} {r : AppendRequest E} {y : Except StoreError EventV1} {s' : Sys E},
    Step s i (.appendVerifiedEvent r) y s' →
      ((∃ e, y = .error e) ∧ s'.tables = s.tables) ∨
      y = .ok r.event ∧ r.expectedHead = headOf (s.tables.stream r.event.missionId) ∧
        s'.tables.stream r.event.missionId = s.tables.stream r.event.missionId ++ [r.event]
  /-- After an append at a head, whatever happens, no append transaction that names it
  succeeds. -/
  once : ∀ {i j : ℕ} {r r' : AppendRequest E} {e : EventV1} {y : Except StoreError EventV1}
    {s₁ s₂ s₃ : Sys E}, Step s i (.appendVerifiedEvent r) (.ok e) s₁ → Reaches s₁ s₂ →
      Step s₂ j (.appendVerifiedEvent r') y s₃ → r'.event.missionId = r.event.missionId →
      r'.expectedHead = r.expectedHead → (∃ x, y = .error x) ∧ s₃.tables = s₂.tables
  /-- A stream that has ended stays as it is, and every append transaction to it raises. -/
  ended : ∀ {m : Digest} {e : EventV1}, (s.tables.stream m).getLast? = some e →
    e.kind ∈ terminalKinds → ∀ {s' : Sys E}, Reaches s s' →
      s'.tables.stream m = s.tables.stream m ∧
      ∀ {j : ℕ} {r : AppendRequest E} {y : Except StoreError EventV1} {s'' : Sys E},
        Step s' j (.appendVerifiedEvent r) y s'' → r.event.missionId = m →
        (∃ x, y = .error x) ∧ s''.tables = s'.tables
  /-- An append operation raises and changes nothing, ends with its append transaction,
  or finds what it was asked for retained already. -/
  operation : ∀ {i : ℕ} {op : AppendOp E} {y : Except StoreError EventV1}
    {own : List (E.Db × E.Db)} {s' : Sys E}, Exec i s op.program y own s' →
      AppendEnd i s op own s' y

section Laws

variable {s s₁ s₂ : Sys E}

/-- An append that is admitted names the head, which a later state has left behind. -/
theorem Step.append_once (h : s.Reachable) (hhash : ∀ b, E.events.eventId b ≠ genesisDigest)
    {i : ℕ} {r r' : AppendRequest E} {e : EventV1}
    (hs : Step s i (.appendVerifiedEvent r) (.ok e) s₁) (hr : Reaches s₁ s₂)
    (hm : r'.event.missionId = r.event.missionId) (hhead : r'.expectedHead = r.expectedHead) :
    ¬Admits s₂.tables r' := by
  intro hadmits
  rcases hs.append_cases with ⟨⟨x, hx⟩, -⟩ | ⟨-, hfirst, hstream⟩
  · cases hx
  have hsound := h.cacheSound.step hs
  obtain ⟨more, hmore⟩ := hr.stream_prefix hsound r.event.missionId
  have hsplit : s₂.tables.stream r.event.missionId =
      s.tables.stream r.event.missionId ++ r.event :: more := by
    rw [← hmore, hstream, List.append_assoc]
    rfl
  have hreach₂ := h.reaches ((Reaches.refl.step hs).trans hr)
  have hne := hreach₂.streamsDecode.headOf_ne hreach₂.cacheSound.keys hhash hsplit
  have hhead₂ := hadmits.head
  rw [hm, hhead, hfirst.head] at hhead₂
  exact hne hhead₂.symm

/-- Mission streams under any interleaving of the connections' operations. -/
theorem append_streams (hhash : ∀ b, E.events.eventId b ≠ genesisDigest) (h : s.Reachable) :
    StreamLaws s where
  valid := h.streamsDecode.valid
  appendOnly hs m := by
    rcases hs.stream_cases h.cacheSound m with heq | ⟨e, he, -⟩
    · exact .inl heq
    · exact .inr ⟨e, he⟩
  compareAndAppend hs := by
    rcases hs.append_cases with herr | ⟨hy, hadmits, hstream⟩
    · exact .inl herr
    · exact .inr ⟨hy, hadmits.head, hstream⟩
  once hs hr hs' hm hhead := by
    rcases hs'.append_cases with herr | ⟨-, hadmits, -⟩
    · exact herr
    · exact absurd hadmits (Step.append_once h hhash hs hr hm hhead)
  ended he hterm s' hr := by
    have hstream := hr.stream_of_terminal h.cacheSound he hterm
    refine ⟨hstream, fun hs hm => ?_⟩
    rcases hs.append_cases with herr | ⟨-, hadmits, -⟩
    · exact herr
    · refine absurd hterm (hadmits.notTerminal _ ?_)
      rw [hm, hstream]
      exact he
  operation hx := hx.appendOp_cases h.cacheSound

end Laws

theorem sampleEnv_eventId_ne (b : EventBody) : sampleEnv.events.eventId b ≠ genesisDigest := by
  intro h
  have hgenesis : 1001 < genesisDigest.toNat := by decide
  have hnat : (BitVec.ofNat 256 (min b.seq 1000 + 1)).toNat = genesisDigest.toNat :=
    congrArg BitVec.toNat h
  rw [BitVec.toNat_ofNat, Nat.mod_eq_of_lt (by omega)] at hnat
  omega

/-- A stream of two events. -/
theorem append_streams_sample : StreamLaws samplePended ∧
    samplePended.tables.stream 100 = [sampleFirst, sampleSecond] :=
  ⟨append_streams sampleEnv_eventId_ne samplePended_reachable, by decide +kernel⟩

/-- Two appends can name one head and both return : the same pending request submitted
again finds its event and dossier retained. -/
theorem resubmitted_append_returns :
    ¬∀ (s s' s'' : Sys sampleEnv) (i j : ℕ) (op op' : AppendOp sampleEnv) (e : EventV1)
      (y : Except StoreError EventV1) (own own' : List (sampleEnv.Db × sampleEnv.Db)),
      s.Reachable → Exec i s op.program (.ok e) own s' → Exec j s' op'.program y own' s'' →
      op'.request.event.missionId = op.request.event.missionId →
      op'.request.expectedHead = op.request.expectedHead → ∃ x, y = .error x := by
  intro h
  let op : AppendOp sampleEnv := .pending (sampleRequest 1 sampleSecond)
  let first := op.program.run 0 sampleFinalized
  let second := op.program.run 1 first.2
  have hfirst : first.1.toOption = some sampleSecond := by decide +kernel
  have hsecond : second.1.toOption = some sampleSecond := by decide +kernel
  obtain ⟨own, hx⟩ := op.program.run_exec 0 sampleFinalized
  obtain ⟨own', hx'⟩ := op.program.run_exec 1 first.2
  have hok : (op.program.run 0 sampleFinalized).1 = .ok sampleSecond := by
    change first.1 = _
    cases hy : first.1 with
    | error x => rw [hy] at hfirst; cases hfirst
    | ok e => rw [hy] at hfirst; rw [Option.some.inj hfirst]
  rw [hok] at hx
  obtain ⟨x, herr⟩ := h _ _ _ _ _ op op _ _ _ _ sampleFinalized_reachable hx hx' rfl rfl
  change second.1 = _ at herr
  rw [herr] at hsecond
  cases hsecond

end Etzio
