import Etzio.EventPayloads

/-!
# The codec of events

`EventV1` keeps its payload as canonical bytes beside the fields of the event, and its wire is the
envelope around a body that holds the payload as a value. An event reads back from its wire and
verifies, an accepted wire is the wire of the event it is read as, and two events of one digest have
one body unless two preimages collide (`event_codec`).
-/

open CheckedRun JsonText

namespace Etzio.Wire

variable (E : WireEnv)

/-! ## Events -/

def eventVersion : ℤ := 1

/-- `_BODY_KEYS`. -/
def eventBodyKeys : List String :=
  ["authority_id", "decision_time", "kind", "mission_id", "payload", "prev_digest", "seq",
    "target_id", "unit"]

/-- The arguments of the constructor, before their types are checked. -/
structure EventArgs where
  protocolVersion : ℤ
  eventVersion : ℤ
  missionId : Json
  seq : Json
  kind : Json
  unit : Json
  authorityId : Json
  targetId : Json
  decisionTime : Json
  payloadBytes : ByteArray
  prevDigest : Json
  eventDigest : Json

/-- The fields of an event, of their types. -/
structure EventFields where
  protocolVersion : ℤ
  eventVersion : ℤ
  missionId : String
  seq : ℕ
  kind : String
  unit : String
  authorityId : String
  targetId : String
  decisionTime : ℕ
  payloadBytes : ByteArray
  prevDigest : String
  eventDigest : String

/-- The arguments that give the fields. -/
def EventFields.args (f : EventFields) : EventArgs where
  protocolVersion := f.protocolVersion
  eventVersion := f.eventVersion
  missionId := .str f.missionId
  seq := .int f.seq
  kind := .str f.kind
  unit := .str f.unit
  authorityId := .str f.authorityId
  targetId := .str f.targetId
  decisionTime := .int f.decisionTime
  payloadBytes := f.payloadBytes
  prevDigest := .str f.prevDigest
  eventDigest := .str f.eventDigest

/-- `EventV1.__post_init__` up to the payload : the checks of single fields. -/
def EventArgs.typed (a : EventArgs) : Except WireError EventFields := do
  refuseIf (a.protocolVersion ≠ Etzio.protocolVersion)
    (.event ("unsupported protocol_version: " ++ toString a.protocolVersion))
  refuseIf (a.eventVersion ≠ Wire.eventVersion)
    (.event ("unsupported event_version: " ++ toString a.eventVersion))
  let missionId ← requireDigest "mission_id" a.missionId
  let seq ← requireNonnegativeInt "seq" a.seq
  let kind ← requireNonemptyText "kind" a.kind
  let unit ← requireNonemptyText "unit" a.unit
  let authorityId ← requireDigest "authority_id" a.authorityId
  let targetId ← requireDigest "target_id" a.targetId
  let decisionTime ← requireNonnegativeInt "decision_time" a.decisionTime
  let prevDigest ← requireDigest "prev_digest" a.prevDigest
  let eventDigest ← requireDigest "event_digest" a.eventDigest
  return { protocolVersion := a.protocolVersion, eventVersion := a.eventVersion, missionId, seq,
           kind, unit, authorityId, targetId, decisionTime, payloadBytes := a.payloadBytes,
           prevDigest, eventDigest }

/-- The fields that the payload is checked against. -/
def EventFields.context (f : EventFields) : EventContext where
  kind := f.kind
  unit := f.unit
  missionId := f.missionId
  authorityId := f.authorityId
  targetId := f.targetId
  decisionTime := f.decisionTime
  prevDigest := f.prevDigest

/-- `EventV1._body` with the value of the payload. -/
def EventFields.bodyOf (f : EventFields) (payload : Json) : Members :=
  [("authority_id", .str f.authorityId), ("decision_time", .int f.decisionTime),
    ("kind", .str f.kind), ("mission_id", .str f.missionId), ("payload", payload),
    ("prev_digest", .str f.prevDigest), ("seq", .int f.seq), ("target_id", .str f.targetId),
    ("unit", .str f.unit)]

/-- `except ProtocolError`, after the event errors went through. -/
def bodyErrors {α : Type} (x : Except WireError α) : Except WireError α :=
  catching (fun exc => exc.isProtocol && !exc.isEvent)
    (fun exc => .event ("event body violates protocol v1: " ++ exc.text)) x

/-- The payload of `payload_bytes`. -/
def EventFields.payload (f : EventFields) : Except WireError Members := do
  let payload ← E.loads f.payloadBytes
  orRefuse (members? payload) (.event "event payload must be a JSON object")

/-- The rest of `EventV1.__post_init__` : the payload and the digest. -/
def EventFields.check (f : EventFields) : Except WireError Unit := do
  let expected ← bodyErrors (do
    let payload ← f.payload E
    let canonical ← E.dumps (.obj payload)
    refuseIf (canonical ≠ f.payloadBytes) (.event "payload bytes are not canonical")
    validatePayload E f.context payload
    E.create "event" (.obj (f.bodyOf (.obj payload))))
  refuseIf (f.eventDigest ≠ expected.objectId)
    (.event "event digest does not match the common envelope object_id")

/-- `EventV1` : fields that the constructor accepts. -/
structure EventV1 extends EventFields where
  typed : toEventFields.args.typed = .ok toEventFields
  checked : toEventFields.check E = .ok ()

/-! ### Fields and arguments -/

theorem str_of_textOf {value : Json} {pattern : String → Bool} {error : WireError} {text : String}
    (h : textOf value pattern error = .ok text) : value = .str text := by
  obtain ⟨t, ht, hrest⟩ := orRefuse_bind_eq_ok.mp h
  obtain ⟨-, hreturn⟩ := unit_bind_eq_ok.mp hrest
  obtain rfl := Except.ok.inj hreturn
  cases value <;> simp_all [str?]

theorem int_of_natOf {value : Json} {upper : Option ℕ} {error : WireError} {n : ℕ}
    (h : natOf value upper error = .ok n) : value = .int n := by
  obtain ⟨m, hm, hrest⟩ := orRefuse_bind_eq_ok.mp h
  obtain ⟨hbounds, hreturn⟩ := unit_bind_eq_ok.mp hrest
  obtain rfl := Except.ok.inj hreturn
  rw [refuseIf_eq_ok, not_or, not_lt] at hbounds
  have hvalue : value = .int m := by cases value <;> simp_all [int?]
  rw [hvalue, Int.toNat_of_nonneg hbounds.1]

/-- The fields that are made of some arguments have these arguments. -/
theorem EventArgs.typed_args {a : EventArgs} {f : EventFields} (h : a.typed = .ok f) :
    f.args = a := by
  obtain ⟨-, h⟩ := unit_bind_eq_ok.mp h
  obtain ⟨-, h⟩ := unit_bind_eq_ok.mp h
  obtain ⟨missionId, hmission, h⟩ := bind_eq_ok.mp h
  obtain ⟨seq, hseq, h⟩ := bind_eq_ok.mp h
  obtain ⟨kind, hkind, h⟩ := bind_eq_ok.mp h
  obtain ⟨unit, hunit, h⟩ := bind_eq_ok.mp h
  obtain ⟨authorityId, hauthority, h⟩ := bind_eq_ok.mp h
  obtain ⟨targetId, htarget, h⟩ := bind_eq_ok.mp h
  obtain ⟨decisionTime, htime, h⟩ := bind_eq_ok.mp h
  obtain ⟨prevDigest, hprev, h⟩ := bind_eq_ok.mp h
  obtain ⟨eventDigest, hdigest, h⟩ := bind_eq_ok.mp h
  obtain rfl := Except.ok.inj h
  simp only [EventFields.args, ← str_of_textOf hmission, ← int_of_natOf hseq,
    ← str_of_textOf hkind, ← str_of_textOf hunit, ← str_of_textOf hauthority,
    ← str_of_textOf htarget, ← int_of_natOf htime, ← str_of_textOf hprev, ← str_of_textOf hdigest]

/-- The constructor `EventV1(...)`. -/
def EventV1.new (a : EventArgs) : Except WireError (EventV1 E) :=
  match htyped : a.typed with
  | .error e => .error e
  | .ok f =>
    match hchecked : f.check E with
    | .error e => .error e
    | .ok () => .ok { f with typed := (a.typed_args htyped).symm ▸ htyped, checked := hchecked }

/-- `EventV1._body`. -/
def EventV1.body (e : EventV1 E) : Except WireError Members := do
  let payload ← e.payload E
  return e.bodyOf (.obj payload)

/-- `EventV1.to_envelope`. -/
def EventV1.toEnvelope (e : EventV1 E) : Except WireError EnvelopeV1 := do
  let body ← e.body
  let envelope ← E.create "event" (.obj body)
  refuseIf (envelope.objectId ≠ e.eventDigest)
    (.event "event digest does not match the common envelope object_id")
  return envelope

/-- `EventV1.to_canonical_bytes`. -/
def EventV1.toCanonicalBytes (e : EventV1 E) : Except WireError ByteArray := do
  let envelope ← e.toEnvelope
  E.toBytes envelope

/-- `EventV1.verify`. -/
def EventV1.verify (e : EventV1 E) : Except WireError Unit := do
  let _ ← EventV1.new E e.args
  return ()

/-- `EventV1.from_canonical_bytes`. -/
def EventV1.fromCanonicalBytes (raw : ByteArray) : Except WireError (EventV1 E) := do
  let envelope ← catching WireError.isProtocol
    (fun exc => .event ("invalid event envelope: " ++ exc.text)) (E.fromBytes raw)
  refuseIf (envelope.objectKind ≠ "event") (.event "protocol envelope is not an event")
  refuseIf (envelope.attestations ≠ []) (.event "event envelopes must not contain attestations")
  let body ← E.thawBody envelope
  let body ← requireExactKeys "event body" body eventBodyKeys
  let payload ← body.item "payload"
  let payload ← orRefuse (members? payload) (.event "event payload must be a JSON object")
  let missionId ← body.item "mission_id"
  let seq ← body.item "seq"
  let kind ← body.item "kind"
  let unit ← body.item "unit"
  let authorityId ← body.item "authority_id"
  let targetId ← body.item "target_id"
  let decisionTime ← body.item "decision_time"
  let payloadBytes ← E.dumps (.obj payload)
  let prevDigest ← body.item "prev_digest"
  EventV1.new E
    { protocolVersion := envelope.protocolVersion, eventVersion := envelope.objectVersion,
      missionId, seq, kind, unit, authorityId, targetId, decisionTime, payloadBytes, prevDigest,
      eventDigest := .str envelope.objectId }

/-- `EventV1.create`. -/
def EventV1.create (missionId seq kind unit authorityId targetId decisionTime payload
    prevDigest : Json) : Except WireError (EventV1 E) := do
  let payload ← orRefuse (members? payload) (.event "payload must be a JSON object")
  let (payloadBytes, envelope) ← catching (fun exc => exc.isProtocol && !exc.isEvent)
    (fun exc => .event ("event cannot be represented by protocol v1: " ++ exc.text)) (do
      let frozen ← protocol (normalized E.nfc (.obj payload))
      let thawed ← protocol (normalized E.nfc frozen)
      let payloadBytes ← E.dumps thawed
      let loaded ← E.loads payloadBytes
      let loaded ← orRefuse (members? loaded) (.event "event payload must be a JSON object")
      let envelope ← E.create "event" (.obj
        [("authority_id", authorityId), ("decision_time", decisionTime), ("kind", kind),
          ("mission_id", missionId), ("payload", .obj loaded), ("prev_digest", prevDigest),
          ("seq", seq), ("target_id", targetId), ("unit", unit)])
      return (payloadBytes, envelope))
  EventV1.new E
    { protocolVersion := envelope.protocolVersion, eventVersion := envelope.objectVersion,
      missionId, seq, kind, unit, authorityId, targetId, decisionTime, payloadBytes, prevDigest,
      eventDigest := .str envelope.objectId }

/-! ## What the constructor accepts -/

variable {E}

/-- The fields of an event construct it again. -/
theorem EventV1.new_args (e : EventV1 E) : EventV1.new E e.args = .ok e := by
  unfold EventV1.new
  split
  · rename_i error herror
    exact absurd (herror.symm.trans e.typed) nofun
  · rename_i f hf
    obtain rfl : f = e.toEventFields := Except.ok.inj (hf.symm.trans e.typed)
    split
    · rename_i error herror
      exact absurd (herror.symm.trans e.checked) nofun
    · rfl

/-- The event that the constructor returns has the arguments. -/
theorem EventV1.args_of_new {a : EventArgs} {e : EventV1 E} (h : EventV1.new E a = .ok e) :
    e.args = a := by
  unfold EventV1.new at h
  split at h
  · exact absurd h nofun
  · rename_i f hf
    split at h
    · exact absurd h nofun
    · obtain rfl := Except.ok.inj h
      exact a.typed_args hf

/-- What the constructor checks of the payload and the digest : the payload is read from its
canonical bytes and valid, and the digest is the identity of the envelope around the body. -/
structure Sealed (f : EventFields) (payload : Members) (envelope : EnvelopeV1) : Prop where
  loaded : strictLoads E.nfc f.payloadBytes = .ok (.obj payload)
  dumped : canonicalDumps E.nfc (.obj payload) = .ok f.payloadBytes
  valid : validatePayload E f.context payload = .ok ()
  created : EnvelopeV1.create E.nfc E.sha256 "event" (.obj (f.bodyOf (.obj payload))) (.arr []) =
    .ok envelope
  digest : f.eventDigest = envelope.objectId

theorem payload_eq_ok {f : EventFields} {payload : Members} :
    f.payload E = .ok payload ↔ strictLoads E.nfc f.payloadBytes = .ok (.obj payload) := by
  rw [EventFields.payload, bind_eq_ok]
  constructor
  · rintro ⟨v, hv, hpayload⟩
    rw [orRefuse_eq_ok, members?_eq_some] at hpayload
    rw [← hpayload]
    exact WireEnv.loads_eq_ok.mp hv
  · intro h
    exact ⟨.obj payload, WireEnv.loads_eq_ok.mpr h, rfl⟩

theorem check_eq_ok {f : EventFields} :
    f.check E = .ok () ↔ ∃ payload envelope, Sealed (E := E) f payload envelope := by
  rw [EventFields.check, bind_eq_ok]
  constructor
  · rintro ⟨envelope, hexpected, hdigest⟩
    rw [bodyErrors, catching_eq_ok] at hexpected
    obtain ⟨payload, hpayload, hrest⟩ := bind_eq_ok.mp hexpected
    obtain ⟨canonical, hcanonical, hrest⟩ := bind_eq_ok.mp hrest
    obtain ⟨hsame, hrest⟩ := unit_bind_eq_ok.mp hrest
    obtain ⟨hvalid, hcreate⟩ := unit_bind_eq_ok.mp hrest
    rw [refuseIf_eq_ok, not_not] at hsame hdigest
    rw [WireEnv.dumps_eq_ok] at hcanonical
    rw [WireEnv.create_eq_ok] at hcreate
    subst hsame
    exact ⟨payload, envelope, payload_eq_ok.mp hpayload, hcanonical, hvalid, hcreate, hdigest⟩
  · rintro ⟨payload, envelope, h⟩
    refine ⟨envelope, ?_, refuseIf_eq_ok.mpr (not_not.mpr h.digest)⟩
    rw [bodyErrors, catching_eq_ok, bind_of_ok (payload_eq_ok.mpr h.loaded),
      bind_of_ok (WireEnv.dumps_eq_ok.mpr h.dumped), refuseIf_bind_of_not (not_not.mpr rfl),
      bind_of_ok h.valid]
    exact WireEnv.create_eq_ok.mpr h.created

/-- A body is in its normal form when its payload is. -/
theorem normalForm_bodyOf (f : EventFields) (v : Json) :
    normalForm (.obj (f.bodyOf v)) = .obj (f.bodyOf (normalForm v)) := by
  rw [normalForm]
  refine congrArg Json.obj ?_
  simp only [EventFields.bodyOf, normalFormMembers, setItem, String.reduceEq, if_false]
  simp [sortMembers, normalForm]

/-- The envelope of a sealed event is unattested, of the event kind and around its body. -/
theorem Sealed.envelope {f : EventFields} {payload : Members} {envelope : EnvelopeV1}
    (h : Sealed (E := E) f payload envelope) :
    envelope.Created E.nfc E.sha256 ∧ envelope.objectKind = "event" ∧
      envelope.attestations = [] ∧ envelope.body = f.bodyOf (.obj payload) := by
  obtain ⟨hcreated, hkind, hbody, hattestations⟩ := create_created h.created
  have hpayload := normalized_normalForm (strictLoads_spec h.loaded).1
  have hform := normalized_normalForm hbody
  have hempty := normalized_normalForm hattestations
  rw [normalForm_bodyOf, ← hpayload] at hform
  refine ⟨hcreated, hkind, ?_, Json.obj.inj hform⟩
  simpa [normalForm, normalFormItems] using hempty

/-- The envelope of an event, and the body it is around. -/
theorem EventV1.sealed (e : EventV1 E) : ∃ payload envelope,
    Sealed (E := E) e.toEventFields payload envelope ∧ e.body = .ok (e.bodyOf (.obj payload)) ∧
      e.toEnvelope = .ok envelope := by
  obtain ⟨payload, envelope, h⟩ := check_eq_ok.mp e.checked
  have hbody : e.body = .ok (e.bodyOf (.obj payload)) := by
    rw [EventV1.body, bind_of_ok (payload_eq_ok.mpr h.loaded)]
    rfl
  refine ⟨payload, envelope, h, hbody, ?_⟩
  rw [EventV1.toEnvelope, bind_of_ok hbody, bind_of_ok (WireEnv.create_eq_ok.mpr h.created),
    refuseIf_bind_of_not (not_not.mpr h.digest.symm)]
  rfl

/-! ## The codec -/

theorem item_eq_ok {body : Members} {key : String} {value : Json} :
    body.item key = .ok value ↔ body.lookup key = some value := by
  rw [Members.item, orRefuse_eq_ok]

/-- An object of exactly the keys is read as it is. -/
theorem requireExactKeys_ok {name : String} {body : Members} {fields : List String}
    (h : HasKeys body fields) : requireExactKeys name (.obj body) fields = .ok body := by
  rw [requireExactKeys, members?_obj, orRefuse_some_bind]
  simp only
  rw [refuseIf_bind_of_not (not_not.mpr h)]
  rfl

theorem requireExactKeys_eq_ok {name : String} {value : Json} {body : Members}
    {fields : List String} (h : requireExactKeys name value fields = .ok body) :
    value = .obj body ∧ HasKeys body fields := by
  obtain ⟨members, hmembers, hrest⟩ := orRefuse_bind_eq_ok.mp h
  obtain ⟨hkeys, hreturn⟩ := unit_bind_eq_ok.mp hrest
  obtain rfl := Except.ok.inj hreturn
  rw [refuseIf_eq_ok, not_not] at hkeys
  exact ⟨members?_eq_some.mp hmembers, hkeys⟩

theorem hasKeys_bodyOf (f : EventFields) (v : Json) : HasKeys (f.bodyOf v) eventBodyKeys := by
  constructor <;> simp [EventFields.bodyOf, eventBodyKeys]

/-- An event reads back from the bytes of its envelope. -/
theorem EventV1.reads {e : EventV1 E} {payload : Members} {envelope : EnvelopeV1} {raw : ByteArray}
    (h : Sealed (E := E) e.toEventFields payload envelope)
    (hraw : envelope.toBytes E.nfc = .ok raw) : EventV1.fromCanonicalBytes E raw = .ok e := by
  obtain ⟨hcreated, hkind, hattestations, hbody⟩ := h.envelope
  have hread := WireEnv.fromBytes_eq_ok.mpr (hcreated.fromBytes hraw)
  have hthaw := WireEnv.thawBody_eq_ok.mpr hcreated.body
  have hdumps := WireEnv.dumps_eq_ok.mpr h.dumped
  rw [EventV1.fromCanonicalBytes, bind_of_ok (catching_eq_ok.mpr hread),
    refuseIf_bind_of_not (not_not.mpr hkind), refuseIf_bind_of_not (not_not.mpr hattestations),
    bind_of_ok hthaw, hbody, bind_of_ok (requireExactKeys_ok (hasKeys_bodyOf _ _))]
  simp only [Members.item, EventFields.bodyOf, List.lookup, String.reduceBEq, orRefuse_some_bind,
    members?_obj]
  rw [bind_of_ok hdumps, hcreated.version.1, hcreated.version.2, ← h.digest]
  have hversions := e.typed
  obtain ⟨hprotocol, hversions⟩ := unit_bind_eq_ok.mp hversions
  obtain ⟨hversion, -⟩ := unit_bind_eq_ok.mp hversions
  rw [refuseIf_eq_ok, not_not] at hprotocol hversion
  have hargs := e.new_args
  simp only [EventFields.args] at hprotocol hversion hargs
  rw [hprotocol, hversion] at hargs
  exact hargs

/-- An accepted wire is the wire of the event it is read as. -/
theorem EventV1.writes {raw : ByteArray} {e : EventV1 E}
    (h : EventV1.fromCanonicalBytes E raw = .ok e) : e.toCanonicalBytes = .ok raw := by
  obtain ⟨envelope, henvelope, h₁⟩ := bind_eq_ok.mp h
  obtain ⟨hkind, h₂⟩ := unit_bind_eq_ok.mp h₁
  obtain ⟨hattestations, h₃⟩ := unit_bind_eq_ok.mp h₂
  obtain ⟨thawed, hthawed, h₄⟩ := bind_eq_ok.mp h₃
  obtain ⟨body, hbody, h₅⟩ := bind_eq_ok.mp h₄
  obtain ⟨payloadValue, hpayload, h₆⟩ := bind_eq_ok.mp h₅
  obtain ⟨payload, hobject, h₇⟩ := orRefuse_bind_eq_ok.mp h₆
  obtain ⟨missionId, hmission, h₈⟩ := bind_eq_ok.mp h₇
  obtain ⟨seq, hseq, h₉⟩ := bind_eq_ok.mp h₈
  obtain ⟨kind, hkindValue, h₁₀⟩ := bind_eq_ok.mp h₉
  obtain ⟨unit, hunit, h₁₁⟩ := bind_eq_ok.mp h₁₀
  obtain ⟨authorityId, hauthority, h₁₂⟩ := bind_eq_ok.mp h₁₁
  obtain ⟨targetId, htarget, h₁₃⟩ := bind_eq_ok.mp h₁₂
  obtain ⟨decisionTime, htime, h₁₄⟩ := bind_eq_ok.mp h₁₃
  obtain ⟨payloadBytes, hdumps, h₁₅⟩ := bind_eq_ok.mp h₁₄
  obtain ⟨prevDigest, hprev, h₁₆⟩ := bind_eq_ok.mp h₁₅
  rw [catching_eq_ok, WireEnv.fromBytes_eq_ok] at henvelope
  rw [refuseIf_eq_ok, not_not] at hkind hattestations
  rw [WireEnv.thawBody_eq_ok] at hthawed
  rw [WireEnv.dumps_eq_ok] at hdumps
  rw [item_eq_ok] at hpayload hmission hseq hkindValue hunit hauthority htarget htime hprev
  obtain ⟨hcreated, hraw⟩ := fromBytes_created henvelope
  obtain rfl : thawed = .obj envelope.body := Except.ok.inj (hthawed.symm.trans hcreated.body)
  obtain ⟨hsame, hkeys⟩ := requireExactKeys_eq_ok hbody
  obtain rfl := Json.obj.inj hsame
  obtain rfl := members?_eq_some.mp hobject
  -- the body has exactly the keys, in their order, and the arguments under them
  have hargs := EventV1.args_of_new h₁₆
  simp only [EventFields.args, EventArgs.mk.injEq] at hargs
  obtain ⟨-, -, rfl, rfl, rfl, rfl, rfl, rfl, rfl, rfl, rfl, hdigest⟩ := hargs
  have hordered : envelope.body.map Prod.fst = eventBodyKeys := by
    obtain ⟨hadmitted, -⟩ := normalized_spec hcreated.body
    cases hadmitted with
    | obj _ _ _ hsorted _ => exact hkeys.keys hsorted (by decide)
  have hform : envelope.body = e.bodyOf (.obj payload) := by
    have hnodup : (envelope.body.map Prod.fst).Nodup := by rw [hordered]; decide
    have hrecord := record_eq hnodup
    rw [hordered] at hrecord
    rw [hrecord]
    simp only [eventBodyKeys, List.map_cons, List.map_nil, hpayload, hmission, hseq, hkindValue,
      hunit, hauthority, htarget, htime, hprev, Option.getD_some, EventFields.bodyOf]
  -- the payload is its own normal form, so that its bytes are read as itself
  have hnormal : normalForm (.obj payload) = .obj payload := by
    have hself := normalized_normalForm hcreated.body
    rw [hform, normalForm_bodyOf] at hself
    simpa [EventFields.bodyOf] using (Json.obj.inj hself).symm
  obtain ⟨payload', envelope', hsealed, hbody', henvelope'⟩ := e.sealed
  have hloaded := strictLoads_canonicalDumps hdumps
  rw [hnormal] at hloaded
  obtain rfl : payload' = payload :=
    Json.obj.inj (Except.ok.inj (hsealed.loaded.symm.trans hloaded))
  have hagain := hcreated.create
  rw [hkind, hattestations, hform] at hagain
  obtain rfl : envelope' = envelope := Except.ok.inj (hsealed.created.symm.trans hagain)
  rw [EventV1.toCanonicalBytes, bind_of_ok henvelope']
  exact WireEnv.toBytes_eq_ok.mpr hraw

/-- The bytes that the digest of an event hashes. -/
def EventV1.preimage (e : EventV1 E) : Except WireError ByteArray := do
  let body ← e.body
  protocol (contentPreimage E.nfc "event" (.obj body))

/-- The digest of an event is the text of the hash of its preimage. -/
theorem Sealed.preimage {e : EventV1 E} {payload : Members} {envelope : EnvelopeV1}
    (h : Sealed (E := E) e.toEventFields payload envelope)
    (hbody : e.body = .ok (e.bodyOf (.obj payload))) : ∃ p,
      contentPreimage E.nfc "event" (.obj (e.bodyOf (.obj payload))) = .ok p ∧
        e.preimage = .ok p ∧ e.eventDigest = contentIdText (E.sha256 p) := by
  obtain ⟨hcreated, hkind, -, hform⟩ := h.envelope
  have hidentity := hcreated.identity
  rw [hkind, hform] at hidentity
  obtain ⟨p, hp, hreturn⟩ := bind_eq_ok.mp hidentity
  refine ⟨p, hp, ?_, h.digest.trans (Except.ok.inj hreturn).symm⟩
  rw [EventV1.preimage, bind_of_ok hbody]
  exact protocol_eq_ok.mpr hp

/-- Two events of one digest have one body, unless their preimages collide. -/
theorem EventV1.body_of_digest {e e' : EventV1 E} (h : e.eventDigest = e'.eventDigest) :
    e.body = e'.body ∨ ∃ p p', e.preimage = .ok p ∧ e'.preimage = .ok p' ∧ p ≠ p' ∧
      E.sha256 p = E.sha256 p' := by
  obtain ⟨payload, envelope, hsealed, hbody, -⟩ := e.sealed
  obtain ⟨payload', envelope', hsealed', hbody', -⟩ := e'.sealed
  obtain ⟨p, hp, hpreimage, hdigest⟩ := hsealed.preimage hbody
  obtain ⟨p', hp', hpreimage', hdigest'⟩ := hsealed'.preimage hbody'
  have hhash : E.sha256 p = E.sha256 p' :=
    contentIdText_inj (hdigest.symm.trans (h.trans hdigest'))
  by_cases hsame : p = p'
  · subst hsame
    left
    obtain ⟨-, hnormal⟩ := contentPreimage_inj hp hp'
    have hform := hsealed.envelope.1.body
    have hform' := hsealed'.envelope.1.body
    rw [hsealed.envelope.2.2.2] at hform
    rw [hsealed'.envelope.2.2.2] at hform'
    rw [hbody, hbody', Json.obj.inj (Except.ok.inj (hform.symm.trans (hnormal.trans hform')))]
  · exact Or.inr ⟨p, p', hpreimage, hpreimage', hsame, hhash⟩

theorem EventV1.verify_ok (e : EventV1 E) : e.verify = .ok () := by
  rw [EventV1.verify, bind_of_ok e.new_args]
  rfl

/-- The codec of events : every event reads back from its wire as itself and verifies, an accepted
wire is the wire of the event it is read as, and two events of one digest have one body unless the
preimages of their digests collide under SHA-256. -/
theorem event_codec (E : WireEnv) :
    (∀ e : EventV1 E, (∃ raw, e.toCanonicalBytes = .ok raw ∧
      EventV1.fromCanonicalBytes E raw = .ok e) ∧ e.verify = .ok ()) ∧
    (∀ raw (e : EventV1 E), EventV1.fromCanonicalBytes E raw = .ok e →
      e.toCanonicalBytes = .ok raw) ∧
    ∀ e e' : EventV1 E, e.eventDigest = e'.eventDigest → e.body = e'.body ∨
      ∃ p p', e.preimage = .ok p ∧ e'.preimage = .ok p' ∧ p ≠ p' ∧ E.sha256 p = E.sha256 p' := by
  refine ⟨fun e => ⟨?_, e.verify_ok⟩, fun raw e h => EventV1.writes h,
    fun e e' h => EventV1.body_of_digest h⟩
  obtain ⟨payload, envelope, hsealed, -, henvelope⟩ := e.sealed
  obtain ⟨raw, hraw⟩ := hsealed.envelope.1.bytes
  refine ⟨raw, ?_, EventV1.reads hsealed hraw⟩
  rw [EventV1.toCanonicalBytes, bind_of_ok henvelope]
  exact WireEnv.toBytes_eq_ok.mpr hraw

/-! ## A failed scan -/

/-- Every text is in normal form, one digest, and every key and signature is good. -/
def sampleWireEnv : WireEnv where
  nfc := fun _ => true
  sha256 := fun _ => 0
  validKey := fun _ => true
  verifies := fun _ _ _ => true

/-- The text of the one digest. -/
def sampleZero : String := "sha256:0000000000000000000000000000000000000000000000000000000000000000"

def samplePayload : Members := [("reason_code", .str "io")]

def sampleFailure : EventFields where
  protocolVersion := 1
  eventVersion := 1
  missionId := sampleZero
  seq := 3
  kind := "scan_failed"
  unit := "ETZIO"
  authorityId := sampleZero
  targetId := sampleZero
  decisionTime := 5
  payloadBytes := encoded (.obj samplePayload)
  prevDigest := sampleZero
  eventDigest := sampleZero

theorem sampleZero_eq : contentIdText 0 = sampleZero := by decide +kernel

/-- An admitted body of bounded weight is created under the one digest. -/
theorem sampleWireEnv_create {kind : String} {body : Members}
    (hkind : validateKind kind true = .ok kind) (hbody : Admitted sampleWireEnv.nfc 1 (.obj body))
    (hnodes : nodes (.obj body) + 6 ≤ maxTotalNodes)
    (hweight : weight (.obj body) + 2000 ≤ maxWireBytes) :
    ∃ envelope,
      EnvelopeV1.create sampleWireEnv.nfc sampleWireEnv.sha256 kind (.obj body) (.arr []) =
        .ok envelope ∧ envelope.objectId = sampleZero := by
  have hnormal := normalized_of_admitted (hbody.above (Nat.zero_le 1)) (by omega)
  obtain ⟨p, -, hcreate⟩ :=
    (representable_of_weight hkind hbody hnodes hweight).create hkind hnormal
  exact ⟨_, hcreate, sampleZero_eq⟩

theorem samplePayload_admitted {depth : ℕ} (hdepth : depth < maxNestingDepth) :
    Admitted sampleWireEnv.nfc depth (.obj samplePayload) :=
  admitted_plain (by decide +kernel) (by decide +kernel) hdepth

theorem sampleFailure_admitted :
    Admitted sampleWireEnv.nfc 1 (.obj (sampleFailure.bodyOf (.obj samplePayload))) := by
  have hscalar : ∀ {v : Json}, isPlainScalar v = true → Admitted sampleWireEnv.nfc 2 v :=
    fun hv => ((scalar_of_plain hv).admitted (by decide)).1
  refine admitted_record (by decide +kernel) rfl (by decide) ?_
  simp only [EventFields.bodyOf, List.forall_mem_cons]
  exact ⟨hscalar (by decide +kernel), hscalar (by decide), hscalar (by decide +kernel),
    hscalar (by decide +kernel), samplePayload_admitted (by decide), hscalar (by decide +kernel),
    hscalar (by decide), hscalar (by decide +kernel), hscalar (by decide +kernel), by simp⟩

theorem sampleFailure_checked : sampleFailure.check sampleWireEnv = .ok () := by
  have hnormal : normalized sampleWireEnv.nfc (.obj samplePayload) = .ok (.obj samplePayload) :=
    normalized_of_admitted (samplePayload_admitted (by decide)) (by decide)
  have hsize : (encoded (.obj samplePayload)).size ≤ maxWireBytes := by
    rw [size_encoded]
    decide +kernel
  have hkind : validateKind "event" true = .ok "event" := by decide +kernel
  obtain ⟨envelope, hcreate, hid⟩ := sampleWireEnv_create hkind sampleFailure_admitted (by decide)
    (by decide +kernel)
  exact check_eq_ok.mpr ⟨samplePayload, envelope,
    { loaded := strictLoads_encoded hnormal hsize
      dumped := canonicalDumps_eq_ok.mpr ⟨_, hnormal, hsize, rfl⟩
      valid := by decide +kernel
      created := hcreate
      digest := hid.symm }⟩

/-- The event of a failed scan. -/
def sampleFailureEvent : EventV1 sampleWireEnv :=
  { sampleFailure with typed := by rfl, checked := sampleFailure_checked }

/-- The sample event and its bytes. -/
theorem event_codec_sample : ∃ raw, sampleFailureEvent.toCanonicalBytes = .ok raw ∧
    EventV1.fromCanonicalBytes sampleWireEnv raw = .ok sampleFailureEvent ∧
    sampleFailureEvent.verify = .ok () ∧
    ∀ e, EventV1.fromCanonicalBytes sampleWireEnv raw = .ok e → e.toCanonicalBytes = .ok raw := by
  obtain ⟨hround, hwrites, -⟩ := event_codec sampleWireEnv
  obtain ⟨⟨raw, hraw, hread⟩, hverify⟩ := hround sampleFailureEvent
  exact ⟨raw, hraw, hread, hverify, hwrites raw⟩

end Etzio.Wire
