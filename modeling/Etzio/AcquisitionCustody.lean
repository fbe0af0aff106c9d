import Etzio.Envelopes
import Etzio.Interaction
import Etzio.StoreRuns

/-!
# Acquisition custody

`AcquisitionJournal`, a journal of one intent, at most one debit and at most one outcome,
and `capture_observed` on top of it. Every operation is one transaction that re-reads the
whole journal. `readJournal_snapped` says what the re-reading accepts and returns, `transact_ok`
what an operation that commits does to the journal it read, and `Transacted.reads` that the
journal it leaves is read again.

`acquisition_custody` is about all runs of any processes on one created journal : a transaction
commits or not, and its acknowledgement reaches the process or is lost.
-/

open CheckedRun Interaction JsonText

namespace Etzio

/-! ## Records -/

def maxRecord : ℕ := 8192

def maxRequest : ℕ := 16384

def maxResponse : ℕ := 65536

def intentSchema : String := "etzio.acquisition-custody.intent.v1"

def outcomeSchema : String := "etzio.acquisition-custody.outcome.v1"

/-- `_REASONS`. -/
def indeterminateReasons : List String :=
  ["transport_error", "timeout", "body_limit", "operator_stop"]

/-- `_FIELDS`. -/
def intentFields : List String :=
  ["schema", "service_id", "endpoint", "scope_reference_id", "terms_reference_id",
    "request_sha256", "request_size", "response_limit_bytes"]

def outcomeFields : List String :=
  ["schema", "intent_id", "attempt_id", "kind", "reason", "body_size", "body_sha256"]

/-- What the journal takes from Unicode, SHA-256 and `urlsplit` : NFC fixed points, hashes, and
the endpoints that split into an HTTP URL with a host, a port in range and no user, query or
fragment. -/
structure CustodyEnv where
  nfc : String → Bool
  sha256 : ByteArray → BitVec 256
  urlsplitAccepts : String → Bool

variable (E : CustodyEnv)

/-- The members of a decoded record. -/
abbrev Fields : Type := List (String × Json)

/-- The text of a member. -/
def Fields.text? (value : Fields) (key : String) : Option String := (value.lookup key).bind str?

/-- The integer of a member. -/
def Fields.integer? (value : Fields) (key : String) : Option ℤ := (value.lookup key).bind int?

/-- The hash of some bytes, in hexadecimal digits. -/
def CustodyEnv.sha256Hex (data : ByteArray) : String := String.ofList (hexdigest (E.sha256 data))

/-- `_bytes`. -/
def requireBytes (value : ByteArray) (bound : ℕ) (reason : String) (empty : Bool) :
    Except String Unit :=
  refuseIf ((empty = false ∧ value.size = 0) ∨ value.size > bound) reason

/-- `_decode`. -/
def decodeRecord (wire : ByteArray) (schema : String) (fields : List String) :
    Except String Fields := do
  requireBytes wire maxRecord "record_size" false
  let value ← (strictLoads E.nfc wire).mapError fun _ => "record_encoding"
  let value ← orRefuse (members? value) "record_shape"
  refuseIf (¬((∀ key ∈ value.map Prod.fst, key ∈ fields) ∧
    ∀ key ∈ fields, key ∈ value.map Prod.fst)) "record_shape"
  let dumped ← canonicalDumps E.nfc (.obj value)
  refuseIf (Fields.text? value "schema" ≠ some schema ∨ dumped ≠ wire) "record_encoding"
  return value

/-- `_SHA.fullmatch`. -/
def isSha (text : String) : Bool :=
  text.toList.length = 64 &&
    text.toList.all fun c => ('0' ≤ c ∧ c ≤ '9') || ('a' ≤ c ∧ c ≤ 'f')

/-- The pattern of a service id. -/
def isServiceId (text : String) : Bool :=
  match text.toList with
  | [] => false
  | c :: rest =>
    (('A' ≤ c ∧ c ≤ 'Z') || ('a' ≤ c ∧ c ≤ 'z')) && 1 ≤ rest.length && rest.length ≤ 127 &&
      rest.all fun d => ('A' ≤ d ∧ d ≤ 'Z') || ('a' ≤ d ∧ d ≤ 'z') || ('0' ≤ d ∧ d ≤ '9') ||
        d ∈ ['_', '.', ':', '-']

/-- The documentary shape of an endpoint. -/
def isEndpoint (text : String) : Bool :=
  1 ≤ text.length && text.length ≤ 512 && isAscii text &&
    (text.toList.all fun c => 32 < c.toNat ∧ c.toNat ≠ 127) && E.urlsplitAccepts text

/-- A member is an integer between one and a bound. -/
def Fields.within (value : Fields) (key : String) (bound : ℕ) : Prop :=
  ∃ n ∈ Fields.integer? value key, 1 ≤ n ∧ n ≤ bound

instance (value : Fields) (key : String) (bound : ℕ) : Decidable (value.within key bound) :=
  inferInstanceAs (Decidable (∃ n ∈ Fields.integer? value key, 1 ≤ n ∧ n ≤ bound))

/-- A member is a text with a property. -/
def Fields.holds (value : Fields) (key : String) (p : String → Bool) : Prop :=
  ∃ text ∈ Fields.text? value key, p text = true

instance (value : Fields) (key : String) (p : String → Bool) : Decidable (value.holds key p) :=
  inferInstanceAs (Decidable (∃ text ∈ Fields.text? value key, p text = true))

/-- `_intent`. -/
def intentOf (wire : ByteArray) : Except String Fields := do
  let value ← decodeRecord E wire intentSchema intentFields
  refuseIf (¬value.holds "scope_reference_id" isContentId) "reference_identity"
  refuseIf (¬value.holds "terms_reference_id" isContentId) "reference_identity"
  refuseIf (¬value.holds "service_id" isServiceId) "service_id"
  refuseIf (¬value.holds "endpoint" (isEndpoint E)) "endpoint"
  refuseIf (¬value.holds "request_sha256" isSha) "request_digest"
  refuseIf (¬value.within "request_size" maxRequest) "request_size"
  refuseIf (¬value.within "response_limit_bytes" maxResponse) "response_limit"
  return value

/-- `_intent_id`. -/
def intentId (value : Fields) : Except String String :=
  contentId E.nfc E.sha256 "acquisition_custody_intent_v1" (.obj value)

/-- `_attempt_id`. -/
def attemptId (value : Fields) : Except String String := do
  let id ← intentId E value
  contentId E.nfc E.sha256 "acquisition_custody_attempt_v1"
    (.obj [("intent_id", .str id), ("ordinal", .int 1)])

/-- The response limit of an intent. -/
def responseLimit (value : Fields) : ℕ :=
  ((Fields.integer? value "response_limit_bytes").getD 0).toNat

/-- `len(request) == value["request_size"] and sha256(request) == value["request_sha256"]`. -/
def bindsRequest (value : Fields) (request : ByteArray) : Prop :=
  Fields.integer? value "request_size" = some (request.size : ℤ) ∧
    Fields.text? value "request_sha256" = some (E.sha256Hex request)

instance (value : Fields) (request : ByteArray) : Decidable (bindsRequest E value request) :=
  inferInstanceAs (Decidable (_ ∧ _))

/-! ## The journal -/

structure IntentRow where
  id : ℕ
  wire : ByteArray
  request : ByteArray

structure DebitRow where
  id : ℕ
  binding : String

structure OutcomeRow where
  id : ℕ
  wire : ByteArray
  body : ByteArray

/-- The database of a journal, with the schema of `_DDL`. -/
structure Journal where
  applicationId : ℕ
  userVersion : ℕ
  intent : List IntentRow
  debit : List DebitRow
  outcome : List OutcomeRow

def appId : ℕ := 0x45544131

/-- `CustodySnapshot.status`. -/
inductive CustodyStatus
  | prepared
  | attemptIndeterminate
  | responseCaptured
  | captureIndeterminate
  deriving DecidableEq, Repr

structure CustodySnapshot where
  status : CustodyStatus
  intentId : String
  intentWire : ByteArray
  requestWire : ByteArray
  attemptId : Option String
  outcomeWire : Option ByteArray
  responseWire : Option ByteArray

/-- The `kind` of an outcome. -/
inductive OutcomeKind
  | responseCaptured
  | captureIndeterminate
  deriving DecidableEq, Repr

def OutcomeKind.text : OutcomeKind → String
  | .responseCaptured => "response_captured"
  | .captureIndeterminate => "capture_indeterminate"

def OutcomeKind.status : OutcomeKind → CustodyStatus
  | .responseCaptured => .responseCaptured
  | .captureIndeterminate => .captureIndeterminate

/-- The kind of a stored outcome, by the shape `_read` requires of it. -/
def outcomeKind (result : Fields) (body : ByteArray) : Except String OutcomeKind :=
  if Fields.text? result "kind" = some OutcomeKind.responseCaptured.text then do
    refuseIf (¬(Fields.text? result "reason" = some "opaque_response" ∧ 0 < body.size))
      "capture_shape"
    return .responseCaptured
  else do
    refuseIf (¬(Fields.text? result "kind" = some OutcomeKind.captureIndeterminate.text ∧
      result.holds "reason" (fun reason => reason ∈ indeterminateReasons) ∧ body.size = 0))
      "capture_shape"
    return .captureIndeterminate

/-- The outcome part of `_read`. -/
def readOutcome (j : Journal) (value : Fields) (attempt : Option String) :
    Except String (Option (CustodyStatus × OutcomeRow)) :=
  match j.outcome with
  | [] => .ok none
  | row :: rest => do
    refuseIf (rest ≠ []) "outcome_roster"
    let attempt ← orRefuse attempt "outcome_without_attempt"
    refuseIf (row.id ≠ 1) "outcome_without_attempt"
    refuseIf (¬(0 < row.wire.size ∧ row.wire.size ≤ maxRecord ∧
      row.body.size ≤ responseLimit value)) "stored_outcome_size"
    let result ← decodeRecord E row.wire outcomeSchema outcomeFields
    let intentId ← intentId E value
    refuseIf (¬(Fields.text? result "intent_id" = some intentId ∧
      Fields.text? result "attempt_id" = some attempt)) "outcome_binding"
    requireBytes row.body (responseLimit value) "stored_body" true
    refuseIf (¬(Fields.integer? result "body_size" = some (row.body.size : ℤ) ∧
      Fields.text? result "body_sha256" = some (E.sha256Hex row.body))) "body_binding"
    let kind ← outcomeKind result row.body
    return some (kind.status, row)

/-- `_read`. -/
def readJournal (j : Journal) : Except String CustodySnapshot := do
  refuseIf (j.applicationId ≠ appId) "application_id"
  refuseIf (j.userVersion ≠ 1) "schema_version"
  let row ← match j.intent with
    | [row] => pure row
    | _ => .error "intent_roster"
  refuseIf (¬(row.id = 1 ∧ 0 < row.wire.size ∧ row.wire.size ≤ maxRecord ∧
    0 < row.request.size ∧ row.request.size ≤ maxRequest)) "stored_intent_size"
  let value ← intentOf E row.wire
  requireBytes row.request maxRequest "stored_request_size" false
  refuseIf (¬bindsRequest E value row.request) "request_binding"
  refuseIf (¬(j.debit.length ≤ 1 ∧ ∀ d ∈ j.debit, d.id = 1 ∧ d.binding.length = 71))
    "debit_roster"
  let attempt := j.debit.head?.map DebitRow.binding
  let expected ← attemptId E value
  refuseIf (attempt ≠ none ∧ attempt ≠ some expected) "attempt_binding"
  let outcome ← readOutcome E j value attempt
  let intentId ← intentId E value
  return {
    status := match outcome with
      | some (status, _) => status
      | none => if attempt = none then .prepared else .attemptIndeterminate
    intentId := intentId
    intentWire := row.wire
    requestWire := row.request
    attemptId := attempt
    outcomeWire := outcome.map fun x => x.2.wire
    responseWire := outcome.map fun x => x.2.body }

/-- An insert into `debit`, with the triggers on it. -/
def insertDebit (j : Journal) (row : DebitRow) : Except String Journal := do
  refuseIf (j.debit ≠ []) "existing custody row"
  refuseIf (¬∃ r ∈ j.intent, r.id = 1) "missing custody parent"
  refuseIf (row.id ≠ 1) "CHECK constraint failed"
  return { j with debit := j.debit ++ [row] }

/-- An insert into `outcome`, with the triggers on it. -/
def insertOutcome (j : Journal) (row : OutcomeRow) : Except String Journal := do
  refuseIf (j.outcome ≠ []) "existing custody row"
  refuseIf (¬∃ r ∈ j.debit, r.id = 1) "missing custody parent"
  refuseIf (row.id ≠ 1) "CHECK constraint failed"
  return { j with outcome := j.outcome ++ [row] }

/-! ## Operations -/

/-- `AcquisitionJournal.create`, on a path without a file. -/
def createJournal (wire request : ByteArray) : Except String Journal := do
  let value ← intentOf E wire
  requireBytes request maxRequest "request_size" false
  refuseIf (¬bindsRequest E value request) "request_binding"
  let j : Journal := { applicationId := appId, userVersion := 1,
                       intent := [{ id := 1, wire := wire, request := request }], debit := [],
                       outcome := [] }
  let _ ← readJournal E j
  return j

/-- An operation on a journal. -/
inductive JournalOp
  | inspect
  | debit
  | retainResponse (response : ByteArray)
  | retainIndeterminate (reason : String)

/-- What an operation returns. -/
inductive JournalAnswer
  | attempt (id : String)
  | snapshot (s : CustodySnapshot)

/-- The outcome record that `_retain` writes. -/
def outcomeRecord (intentId attemptId : String) (kind : OutcomeKind) (reason : String)
    (body : ByteArray) : Fields :=
  [("schema", .str outcomeSchema), ("intent_id", .str intentId), ("attempt_id", .str attemptId),
    ("kind", .str kind.text), ("reason", .str reason), ("body_size", .int body.size),
    ("body_sha256", .str (E.sha256Hex body))]

/-- The insert of an outcome, or the comparison with the retained one. -/
def storeOutcome (state : CustodySnapshot) (row : OutcomeRow) (j : Journal) :
    Except String Journal :=
  match state.outcomeWire with
  | none => insertOutcome j row
  | some retained => do
    refuseIf (¬(retained = row.wire ∧ state.responseWire = some row.body)) "conflicting_capture"
    return j

/-- `_retain`, inside its transaction. -/
def retainOutcome (kind : OutcomeKind) (reason : String) (body : ByteArray) (j : Journal) :
    Except String (JournalAnswer × Journal) := do
  let state ← readJournal E j
  let attempt ← orRefuse state.attemptId "attempt_missing"
  let value ← intentOf E state.intentWire
  requireBytes body (responseLimit value) "response_size" (kind = .captureIndeterminate)
  let wire ← canonicalDumps E.nfc (.obj (outcomeRecord E state.intentId attempt kind reason body))
  let j ← storeOutcome state { id := 1, wire := wire, body := body } j
  let result ← readJournal E j
  return (.snapshot result, j)

/-- The transaction of an operation : `_transaction` reads the journal before the body does. -/
def JournalOp.transact (op : JournalOp) (j : Journal) : Except String (JournalAnswer × Journal) :=
  match op with
  | .inspect => do
    let _ ← readJournal E j
    let state ← readJournal E j
    return (.snapshot state, j)
  | .debit => do
    let _ ← readJournal E j
    let state ← readJournal E j
    refuseIf (state.status ≠ .prepared) "attempt_already_spent"
    let value ← intentOf E state.intentWire
    let attempt ← attemptId E value
    let j ← insertDebit j { id := 1, binding := attempt }
    return (.attempt attempt, j)
  | .retainResponse response => do
    let _ ← readJournal E j
    retainOutcome E .responseCaptured "opaque_response" response j
  | .retainIndeterminate reason => do
    refuseIf (reason ∉ indeterminateReasons) "indeterminate_reason"
    let _ ← readJournal E j
    retainOutcome E .captureIndeterminate reason ⟨#[]⟩ j

variable {E}

/-! ## Reading -/

theorem length_contentId {nfc : String → Bool} {sha256 : ByteArray → BitVec 256} {kind : String}
    {value : Json} {text : String} (h : contentId nfc sha256 kind value = .ok text) :
    text.length = 71 := by
  obtain ⟨preimage, -, hreturn⟩ := bind_eq_ok.mp h
  obtain rfl : contentIdText (sha256 preimage) = text := Except.ok.inj hreturn
  exact length_contentIdText _

theorem length_attemptId {value : Fields} {attempt : String}
    (h : attemptId E value = .ok attempt) : attempt.length = 71 := by
  obtain ⟨id, -, hattempt⟩ := bind_eq_ok.mp h
  exact length_contentId hattempt

theorem decodeRecord_encoded {value : Fields} {schema : String} {fields : List String}
    (hnormal : normalized E.nfc (.obj value) = .ok (.obj value))
    (hpos : 0 < (encoded (.obj value)).size) (hsize : (encoded (.obj value)).size ≤ maxRecord)
    (hkeys : (∀ key ∈ value.map Prod.fst, key ∈ fields) ∧
      ∀ key ∈ fields, key ∈ value.map Prod.fst)
    (hschema : Fields.text? value "schema" = some schema) :
    decodeRecord E (encoded (.obj value)) schema fields = .ok value := by
  have hwire : (encoded (.obj value)).size ≤ maxWireBytes := hsize.trans (by decide)
  have hbytes : requireBytes (encoded (.obj value)) maxRecord "record_size" false = .ok () :=
    refuseIf_eq_ok.mpr (by omega)
  have hloads := strictLoads_encoded hnormal hwire
  have hdumps : canonicalDumps E.nfc (.obj value) = .ok (encoded (.obj value)) :=
    canonicalDumps_eq_ok.mpr ⟨_, hnormal, hwire, rfl⟩
  rw [decodeRecord, bind_of_ok hbytes, hloads]
  change (refuseIf _ _ >>= _) = _
  rw [refuseIf_bind_of_not (not_not.mpr hkeys), bind_of_ok hdumps,
    refuseIf_bind_of_not (by simp [hschema])]
  rfl

/-- The bytes of a decoded record are canonical. -/
theorem decodeRecord_dumps {wire : ByteArray} {schema : String} {fields : List String}
    {value : Fields} (h : decodeRecord E wire schema fields = .ok value) :
    (0 < wire.size ∧ wire.size ≤ maxRecord) ∧ canonicalDumps E.nfc (.obj value) = .ok wire := by
  rw [decodeRecord, unit_bind_eq_ok] at h
  obtain ⟨hbytes, h⟩ := h
  obtain ⟨v, -, h⟩ := bind_eq_ok.mp h
  rw [orRefuse_bind_eq_ok] at h
  obtain ⟨members, -, h⟩ := h
  obtain ⟨-, h⟩ := unit_bind_eq_ok.mp h
  obtain ⟨dumped, hdumped, h⟩ := bind_eq_ok.mp h
  simp only [unit_bind_eq_ok, refuseIf_eq_ok, not_or, not_not] at h
  obtain ⟨⟨-, rfl⟩, hreturn⟩ := h
  obtain rfl := Except.ok.inj hreturn
  have hsize := refuseIf_eq_ok.mp hbytes
  simp only [true_and] at hsize
  exact ⟨by omega, hdumped⟩

theorem intentOf_decoded {wire : ByteArray} {value : Fields} (h : intentOf E wire = .ok value) :
    decodeRecord E wire intentSchema intentFields = .ok value := by
  obtain ⟨decoded, hdecoded, hrest⟩ := bind_eq_ok.mp h
  simp only [unit_bind_eq_ok] at hrest
  obtain ⟨-, -, -, -, -, -, -, hreturn⟩ := hrest
  obtain rfl := Except.ok.inj hreturn
  exact hdecoded

/-- The identity that an attempt binds has canonical bytes. -/
theorem attempt_dumps (nfc : String → Bool) (d : BitVec 256) : ∃ b, canonicalDumps nfc
    (.obj [("intent_id", .str (contentIdText d)), ("ordinal", .int 1)]) = .ok b := by
  have hlength := length_contentIdText d
  have hstr := textSize_dumpsString_le (contentIdText d)
  refine ⟨_, canonicalDumps_scalars ?_ (by simp) ?_ (by simp [maxContainerItems]) ?_⟩
  · intro m hm
    have hkey : m.1 = "intent_id" ∨ m.1 = "ordinal" := by
      simp only [List.mem_cons, List.not_mem_nil, or_false] at hm
      rcases hm with rfl | rfl <;> simp
    rcases hkey with hkey | hkey <;> rw [hkey]
    · exact ⟨validString_of_ascii (by decide +kernel) (by decide +kernel), by decide +kernel⟩
    · exact ⟨validString_of_ascii (by decide +kernel) (by decide +kernel), by decide +kernel⟩
  · intro m hm
    simp only [List.mem_cons, List.not_mem_nil, or_false] at hm
    rcases hm with rfl | rfl
    · exact .str (validString_of_ascii (isAscii_contentIdText _) (by rw [hlength]; decide))
    · exact .int (by decide) (by decide)
  · rw [textSize_dumps_obj]
    simp only [List.map_cons, List.map_nil, separated, dumpsMember, textSize_append,
      textSize_cons, dumps]
    have hrest : textSize (dumpsString "intent_id") + (':'.utf8Size + ((6 * 71 + 2) +
        (','.utf8Size + (textSize (dumpsString "ordinal") + (':'.utf8Size +
          textSize (dumpsInt 1)))))) + 2 ≤ maxWireBytes := by decide +kernel
    omega

/-- An intent has an identity, and its attempt has one. -/
theorem intent_identities {wire : ByteArray} {value : Fields} (hv : intentOf E wire = .ok value) :
    ∃ id attempt, intentId E value = .ok id ∧ attemptId E value = .ok attempt := by
  have hdumps := (decodeRecord_dumps (intentOf_decoded hv)).2
  have hpreimage := contentPreimage_eq_ok.mpr
    ⟨(by decide +kernel : isSnakeCase "acquisition_custody_intent_v1" = true), wire, hdumps, rfl⟩
  obtain ⟨b, hb⟩ := attempt_dumps E.nfc (E.sha256 (contentDomain ++
    asciiBytes "acquisition_custody_intent_v1" ++ [0] ++ wire.data.toList).toByteArray)
  have hattempt := contentPreimage_eq_ok.mpr
    ⟨(by decide +kernel : isSnakeCase "acquisition_custody_attempt_v1" = true), b, hb, rfl⟩
  have hid := bind_of_ok (f := fun p => pure (contentIdText (E.sha256 p))) hpreimage
  exact ⟨_, _, hid, (bind_of_ok hid).trans (bind_of_ok hattempt)⟩

/-- The snapshot of a journal with this intent row and this outcome. -/
def snapshotOf (j : Journal) (row : IntentRow) (id : String)
    (outcome : Option (CustodyStatus × OutcomeRow)) : CustodySnapshot where
  status := match outcome with
    | some (status, _) => status
    | none => if j.debit.head?.map DebitRow.binding = none then .prepared
      else .attemptIndeterminate
  intentId := id
  intentWire := row.wire
  requestWire := row.request
  attemptId := j.debit.head?.map DebitRow.binding
  outcomeWire := outcome.map fun x => x.2.wire
  responseWire := outcome.map fun x => x.2.body

variable (E) in
/-- What `_read` requires of the rows before the outcome. -/
structure Rostered (j : Journal) (row : IntentRow) (value : Fields) (expected : String) :
    Prop where
  application : j.applicationId = appId
  version : j.userVersion = 1
  roster : j.intent = [row]
  stored : row.id = 1 ∧ 0 < row.wire.size ∧ row.wire.size ≤ maxRecord ∧
    0 < row.request.size ∧ row.request.size ≤ maxRequest
  decoded : intentOf E row.wire = .ok value
  request : requireBytes row.request maxRequest "stored_request_size" false = .ok ()
  binds : bindsRequest E value row.request
  debits : j.debit.length ≤ 1 ∧ ∀ d ∈ j.debit, d.id = 1 ∧ d.binding.length = 71
  identity : attemptId E value = .ok expected
  attempt : ¬(j.debit.head?.map DebitRow.binding ≠ none ∧
    j.debit.head?.map DebitRow.binding ≠ some expected)

theorem readJournal_eq_ok {j : Journal} {s : CustodySnapshot} : readJournal E j = .ok s ↔
    ∃ row value expected outcome id, Rostered E j row value expected ∧
      readOutcome E j value (j.debit.head?.map DebitRow.binding) = .ok outcome ∧
      intentId E value = .ok id ∧ s = snapshotOf j row id outcome := by
  rw [readJournal]
  simp only [unit_bind_eq_ok, refuseIf_eq_ok, not_not]
  constructor
  · rintro ⟨happ, hversion, hread⟩
    rcases hroster : j.intent with _ | ⟨row, _ | ⟨row', rest⟩⟩
    · rw [hroster] at hread
      cases hread
    · rw [hroster] at hread
      obtain ⟨row₁, hrow, hread⟩ := bind_eq_ok.mp hread
      obtain rfl : row = row₁ := Except.ok.inj hrow
      simp only [unit_bind_eq_ok, refuseIf_eq_ok, not_not] at hread
      obtain ⟨hstored, hread⟩ := hread
      obtain ⟨value, hvalue, hread⟩ := bind_eq_ok.mp hread
      simp only [unit_bind_eq_ok, refuseIf_eq_ok, not_not] at hread
      obtain ⟨hrequest, hbinds, hdebits, hread⟩ := hread
      obtain ⟨expected, hexpected, hread⟩ := bind_eq_ok.mp hread
      obtain ⟨hattempt, hread⟩ := unit_bind_eq_ok.mp hread
      obtain ⟨outcome, houtcome, hread⟩ := bind_eq_ok.mp hread
      obtain ⟨id, hid, hreturn⟩ := bind_eq_ok.mp hread
      exact ⟨row, value, expected, outcome, id,
        ⟨happ, hversion, hroster, hstored, hvalue, hrequest, hbinds, hdebits, hexpected,
          refuseIf_eq_ok.mp hattempt⟩, houtcome, hid, (Except.ok.inj hreturn).symm⟩
    · rw [hroster] at hread
      cases hread
  · rintro ⟨row, value, expected, outcome, id, h, houtcome, hid, rfl⟩
    refine ⟨h.application, h.version, ?_⟩
    rw [h.roster]
    change (refuseIf _ _ >>= _) = _
    rw [refuseIf_bind_of_not (not_not.mpr h.stored), bind_of_ok h.decoded, bind_of_ok h.request,
      refuseIf_bind_of_not (not_not.mpr h.binds), refuseIf_bind_of_not (not_not.mpr h.debits),
      bind_of_ok h.identity, refuseIf_bind_of_not h.attempt, bind_of_ok houtcome, bind_of_ok hid]
    rfl

theorem readOutcome_eq_ok {j : Journal} {value : Fields} {attempt : Option String}
    {outcome : Option (CustodyStatus × OutcomeRow)}
    (h : readOutcome E j value attempt = .ok outcome) :
    (j.outcome = [] ∧ outcome = none) ∨ ∃ row, ∃ kind : OutcomeKind, j.outcome = [row] ∧
      attempt ≠ none ∧ row.id = 1 ∧ outcome = some (kind.status, row) := by
  rw [readOutcome] at h
  rcases houtcome : j.outcome with _ | ⟨row, rest⟩
  · rw [houtcome] at h
    exact Or.inl ⟨rfl, (Except.ok.inj h).symm⟩
  · rw [houtcome] at h
    simp only [unit_bind_eq_ok, refuseIf_eq_ok, orRefuse_bind_eq_ok, not_not] at h
    obtain ⟨hrest, attempt', rfl, hid, -, h⟩ := h
    obtain ⟨result, -, h⟩ := bind_eq_ok.mp h
    obtain ⟨id, -, h⟩ := bind_eq_ok.mp h
    simp only [unit_bind_eq_ok, refuseIf_eq_ok, not_not] at h
    obtain ⟨-, -, -, h⟩ := h
    obtain ⟨kind, -, hreturn⟩ := bind_eq_ok.mp h
    refine Or.inr ⟨row, kind, ?_, by simp, hid, (Except.ok.inj hreturn).symm⟩
    rw [hrest]

/-- What a snapshot says about the journal it was read from. -/
structure Snapped (j : Journal) (s : CustodySnapshot) : Prop where
  intent : ∃ row, j.intent = [row] ∧ s.intentWire = row.wire
  debits : j.debit.length ≤ 1
  attempt : s.attemptId = j.debit.head?.map DebitRow.binding
  outcome : (j.outcome = [] ∧ s.outcomeWire = none ∧
      s.status = if j.debit = [] then .prepared else .attemptIndeterminate) ∨
    ∃ row, ∃ kind : OutcomeKind, j.outcome = [row] ∧ row.id = 1 ∧ j.debit ≠ [] ∧
      s.outcomeWire = some row.wire ∧ s.responseWire = some row.body ∧ s.status = kind.status

theorem readJournal_snapped {j : Journal} {s : CustodySnapshot} (h : readJournal E j = .ok s) :
    Snapped j s := by
  obtain ⟨row, value, expected, outcome, id, hrow, houtcome, -, rfl⟩ := readJournal_eq_ok.mp h
  refine ⟨⟨row, hrow.roster, rfl⟩, hrow.debits.1, rfl, ?_⟩
  rcases readOutcome_eq_ok houtcome with ⟨hnone, rfl⟩ | ⟨stored, kind, hsome, hattempt, hid, rfl⟩
  · refine Or.inl ⟨hnone, rfl, ?_⟩
    simp [snapshotOf]
  · refine Or.inr ⟨stored, kind, hsome, hid, ?_, rfl, rfl, rfl⟩
    simpa using hattempt

/-- Every intent with its request makes a journal. -/
theorem createJournal_ok {wire request : ByteArray} {value : Fields}
    (hvalue : intentOf E wire = .ok value) (hpos : 0 < request.size)
    (hsize : request.size ≤ maxRequest) (hbinds : bindsRequest E value request) :
    ∃ j, createJournal E wire request = .ok j := by
  obtain ⟨id, attempt, hid, hattempt⟩ := intent_identities hvalue
  have hbytes : ∀ reason, requireBytes request maxRequest reason false = .ok () := fun reason =>
    refuseIf_eq_ok.mpr (by omega)
  have hstored := (decodeRecord_dumps (intentOf_decoded hvalue)).1
  let row : IntentRow := { id := 1, wire := wire, request := request }
  let j : Journal := { applicationId := appId, userVersion := 1, intent := [row], debit := [],
                       outcome := [] }
  have hrow : Rostered E j row value attempt :=
    { application := rfl
      version := rfl
      roster := rfl
      stored := ⟨rfl, hstored.1, hstored.2, hpos, hsize⟩
      decoded := hvalue
      request := hbytes _
      binds := hbinds
      debits := by simp [j]
      identity := hattempt
      attempt := by simp [j] }
  have hread : readJournal E j = .ok (snapshotOf j row id none) :=
    readJournal_eq_ok.mpr ⟨row, value, attempt, none, id, hrow, rfl, hid, rfl⟩
  refine ⟨j, ?_⟩
  rw [createJournal, bind_of_ok hvalue, bind_of_ok (hbytes _),
    refuseIf_bind_of_not (not_not.mpr hbinds)]
  exact bind_of_ok hread

/-- A new journal is prepared. -/
theorem createJournal_prepared {wire request : ByteArray} {j : Journal}
    (h : createJournal E wire request = .ok j) :
    ∃ s, readJournal E j = .ok s ∧ s.status = .prepared ∧ s.intentWire = wire := by
  obtain ⟨value, -, h⟩ := bind_eq_ok.mp h
  simp only [unit_bind_eq_ok] at h
  obtain ⟨-, -, h⟩ := h
  obtain ⟨s, hs, hreturn⟩ := bind_eq_ok.mp h
  obtain rfl := Except.ok.inj hreturn
  have hsnap := readJournal_snapped hs
  refine ⟨s, hs, ?_, ?_⟩
  · rcases hsnap.outcome with ⟨-, -, hstatus⟩ | ⟨_, _, hstored, -⟩
    · rw [hstatus]
      rfl
    · cases hstored
  · obtain ⟨row, hrow, hwire⟩ := hsnap.intent
    rw [hwire, ← (List.cons.inj hrow).1]

/-! ## Transactions -/

/-- The kind, reason and body that an operation retains. -/
def JournalOp.retained : JournalOp → Option (OutcomeKind × String × ByteArray)
  | .inspect => none
  | .debit => none
  | .retainResponse response => some (.responseCaptured, "opaque_response", response)
  | .retainIndeterminate reason => some (.captureIndeterminate, reason, ⟨#[]⟩)

theorem JournalOp.eq_of_retained {op op' : JournalOp} (h : op.retained ≠ none)
    (heq : op.retained = op'.retained) : op = op' := by
  cases op <;> cases op' <;> simp_all [JournalOp.retained]

variable (E) in
/-- What a transaction that commits does to a journal with this snapshot. -/
inductive Transacted (j : Journal) (s : CustodySnapshot) :
    JournalOp → JournalAnswer → Journal → Prop
  | inspected : Transacted j s .inspect (.snapshot s) j
  | debited {value attempt} (hvalue : intentOf E s.intentWire = .ok value)
      (hattempt : attemptId E value = .ok attempt) (hdebit : j.debit = [])
      (houtcome : j.outcome = []) :
      Transacted j s .debit (.attempt attempt)
        { j with debit := j.debit ++ [{ id := 1, binding := attempt }] }
  | retained {op kind reason body attempt wire s'} (hop : op.retained = some (kind, reason, body))
      (hattempt : s.attemptId = some attempt)
      (hwire : canonicalDumps E.nfc
        (.obj (outcomeRecord E s.intentId attempt kind reason body)) = .ok wire)
      (houtcome : j.outcome = [])
      (hread : readJournal E { j with
        outcome := j.outcome ++ [{ id := 1, wire := wire, body := body }] } = .ok s') :
      Transacted j s op (.snapshot s')
        { j with outcome := j.outcome ++ [{ id := 1, wire := wire, body := body }] }
  | repeated {op kind reason body attempt wire} (hop : op.retained = some (kind, reason, body))
      (hattempt : s.attemptId = some attempt)
      (hwire : canonicalDumps E.nfc
        (.obj (outcomeRecord E s.intentId attempt kind reason body)) = .ok wire)
      (houtcome : j.outcome = [{ id := 1, wire := wire, body := body }]) :
      Transacted j s op (.snapshot s) j

theorem insertDebit_eq_ok {j j' : Journal} {row : DebitRow} (h : insertDebit j row = .ok j') :
    j.debit = [] ∧ j' = { j with debit := j.debit ++ [row] } := by
  rw [insertDebit] at h
  simp only [unit_bind_eq_ok, refuseIf_eq_ok, not_not] at h
  exact ⟨h.1, (Except.ok.inj h.2.2.2).symm⟩

theorem insertOutcome_eq_ok {j j' : Journal} {row : OutcomeRow}
    (h : insertOutcome j row = .ok j') :
    j.outcome = [] ∧ j' = { j with outcome := j.outcome ++ [row] } := by
  rw [insertOutcome] at h
  simp only [unit_bind_eq_ok, refuseIf_eq_ok, not_not] at h
  exact ⟨h.1, (Except.ok.inj h.2.2.2).symm⟩

theorem retainOutcome_ok {op : JournalOp} {kind : OutcomeKind} {reason : String}
    {body : ByteArray} {j j' : Journal} {s : CustodySnapshot} {x : JournalAnswer}
    (hop : op.retained = some (kind, reason, body)) (hs : readJournal E j = .ok s)
    (h : retainOutcome E kind reason body j = .ok (x, j')) : Transacted E j s op x j' := by
  rw [retainOutcome, bind_of_ok hs, orRefuse_bind_eq_ok] at h
  obtain ⟨attempt, hattempt, h⟩ := h
  obtain ⟨value, -, h⟩ := bind_eq_ok.mp h
  obtain ⟨-, h⟩ := unit_bind_eq_ok.mp h
  obtain ⟨wire, hwire, h⟩ := bind_eq_ok.mp h
  obtain ⟨j₁, hstore, h⟩ := bind_eq_ok.mp h
  obtain ⟨s', hread, hreturn⟩ := bind_eq_ok.mp h
  obtain ⟨rfl, rfl⟩ := Prod.mk.inj (Except.ok.inj hreturn)
  rw [storeOutcome] at hstore
  rcases (readJournal_snapped hs).outcome with ⟨-, hnone, -⟩ |
    ⟨⟨id, retained, stored⟩, -, hrow, rfl, -, hretained, hstored, -⟩
  · rw [hnone] at hstore
    obtain ⟨hempty, rfl⟩ := insertOutcome_eq_ok hstore
    exact .retained hop hattempt hwire hempty hread
  · rw [hretained] at hstore
    simp only [unit_bind_eq_ok, refuseIf_eq_ok, not_not] at hstore
    obtain ⟨⟨rfl, hbody⟩, hsame⟩ := hstore
    obtain rfl : j = j₁ := Except.ok.inj hsame
    obtain rfl : s = s' := Except.ok.inj (hs.symm.trans hread)
    obtain rfl : stored = body := Option.some.inj (hstored.symm.trans hbody)
    exact .repeated hop hattempt hwire hrow

/-- Everything a committed transaction can do. -/
theorem transact_ok {op : JournalOp} {j j' : Journal} {s : CustodySnapshot} {x : JournalAnswer}
    (hs : readJournal E j = .ok s) (h : op.transact E j = .ok (x, j')) :
    Transacted E j s op x j' := by
  cases op with
  | inspect =>
    rw [JournalOp.transact, bind_of_ok hs, bind_of_ok hs] at h
    obtain ⟨rfl, rfl⟩ := Prod.mk.inj (Except.ok.inj h)
    exact .inspected
  | debit =>
    rw [JournalOp.transact, bind_of_ok hs, bind_of_ok hs, unit_bind_eq_ok] at h
    obtain ⟨hstatus, h⟩ := h
    obtain ⟨value, hvalue, h⟩ := bind_eq_ok.mp h
    obtain ⟨attempt, hattempt, h⟩ := bind_eq_ok.mp h
    obtain ⟨j₁, hinsert, hreturn⟩ := bind_eq_ok.mp h
    obtain ⟨rfl, rfl⟩ := Prod.mk.inj (Except.ok.inj hreturn)
    obtain ⟨hdebit, rfl⟩ := insertDebit_eq_ok hinsert
    refine .debited hvalue hattempt hdebit ?_
    rcases (readJournal_snapped hs).outcome with ⟨hempty, -⟩ | ⟨_, _, -, -, hspent, -⟩
    · exact hempty
    · exact absurd hdebit hspent
  | retainResponse response =>
    rw [JournalOp.transact, bind_of_ok hs] at h
    exact retainOutcome_ok rfl hs h
  | retainIndeterminate reason =>
    rw [JournalOp.transact, unit_bind_eq_ok, bind_of_ok hs] at h
    exact retainOutcome_ok rfl hs h.2

/-- The debit binds the journal to the attempt its intent names. -/
theorem read_debited {j : Journal} {s : CustodySnapshot} {value : Fields} {attempt : String}
    (hs : readJournal E j = .ok s) (hvalue : intentOf E s.intentWire = .ok value)
    (hattempt : attemptId E value = .ok attempt) (hdebit : j.debit = [])
    (houtcome : j.outcome = []) :
    ∃ s', readJournal E { j with debit := j.debit ++ [{ id := 1, binding := attempt }] } =
      .ok s' := by
  obtain ⟨row, value', expected, outcome, id, hrow, -, hid, rfl⟩ := readJournal_eq_ok.mp hs
  obtain rfl : value = value' := Except.ok.inj (hvalue.symm.trans hrow.decoded)
  obtain rfl : attempt = expected := Except.ok.inj (hattempt.symm.trans hrow.identity)
  refine ⟨_, readJournal_eq_ok.mpr ⟨row, value, attempt, none, id, ?_, ?_, hid, rfl⟩⟩
  · exact { hrow with
      debits := by simp [hdebit, length_attemptId hattempt]
      attempt := by simp [hdebit] }
  · rw [readOutcome, houtcome]

/-- A committed transaction leaves a journal that reads. -/
theorem Transacted.reads {op : JournalOp} {j j' : Journal} {s : CustodySnapshot}
    {x : JournalAnswer} (h : Transacted E j s op x j') (hs : readJournal E j = .ok s) :
    ∃ s', readJournal E j' = .ok s' := by
  cases h with
  | inspected => exact ⟨s, hs⟩
  | debited hvalue hattempt hdebit houtcome =>
    exact read_debited hs hvalue hattempt hdebit houtcome
  | retained _ _ _ _ hread => exact ⟨_, hread⟩
  | repeated => exact ⟨s, hs⟩

/-- The rows a committed transaction leaves as they are. -/
theorem Transacted.rows {op : JournalOp} {j j' : Journal} {s : CustodySnapshot}
    {x : JournalAnswer} (h : Transacted E j s op x j') :
    (j.debit ≠ [] → j'.debit = j.debit) ∧ (j.debit = [] → j'.outcome = j.outcome) := by
  cases h with
  | inspected => exact ⟨fun _ => rfl, fun _ => rfl⟩
  | debited _ _ hdebit _ => exact ⟨fun hspent => absurd hdebit hspent, fun _ => rfl⟩
  | retained hop hattempt hwire houtcome hread =>
    refine ⟨fun _ => rfl, fun hdebit => ?_⟩
    rcases (readJournal_snapped hread).outcome with ⟨hempty, -⟩ | ⟨_, _, -, -, hspent, -⟩
    · simp at hempty
    · exact absurd hdebit hspent
  | repeated => exact ⟨fun _ => rfl, fun _ => rfl⟩

/-- A journal with an outcome does not change any more. -/
theorem Transacted.frozen {op : JournalOp} {j j' : Journal} {s : CustodySnapshot}
    {x : JournalAnswer} (h : Transacted E j s op x j') (hout : j.outcome ≠ []) : j' = j := by
  cases h with
  | inspected => rfl
  | debited _ _ _ houtcome => exact absurd houtcome hout
  | retained _ _ _ houtcome _ => exact absurd houtcome hout
  | repeated => rfl

/-- How the status of a journal may move. -/
inductive CustodyStatus.Moves : CustodyStatus → CustodyStatus → Prop
  | stays {status} : Moves status status
  | spent : Moves .prepared .attemptIndeterminate
  | settled (kind : OutcomeKind) : Moves .attemptIndeterminate kind.status

theorem Transacted.moves {op : JournalOp} {j j' : Journal} {s s' : CustodySnapshot}
    {x : JournalAnswer} (h : Transacted E j s op x j') (hs : readJournal E j = .ok s)
    (hs' : readJournal E j' = .ok s') : s.status.Moves s'.status := by
  have hsnap := readJournal_snapped hs
  have hsnap' := readJournal_snapped hs'
  cases h with
  | inspected =>
    obtain rfl : s = s' := Except.ok.inj (hs.symm.trans hs')
    exact .stays
  | debited _ _ hdebit houtcome =>
    rcases hsnap.outcome with ⟨-, -, hstatus⟩ | ⟨_, _, hrow, -⟩
    · rcases hsnap'.outcome with ⟨-, -, hstatus'⟩ | ⟨_, _, hrow, -⟩
      · rw [hstatus, hstatus', if_pos hdebit, if_neg (by simp)]
        exact .spent
      · simp [houtcome] at hrow
    · simp [houtcome] at hrow
  | retained _ hattempt _ houtcome _ =>
    rcases hsnap.outcome with ⟨-, -, hstatus⟩ | ⟨_, _, hrow, -⟩
    · rcases hsnap'.outcome with ⟨hempty, -⟩ | ⟨_, kind, -, -, hspent, -, -, hstatus'⟩
      · simp at hempty
      · rw [hstatus, hstatus', if_neg hspent]
        exact .settled kind
    · simp [houtcome] at hrow
  | repeated =>
    obtain rfl : s = s' := Except.ok.inj (hs.symm.trans hs')
    exact .stays

/-! ## Retaining again -/

/-- The parts of a snapshot that the outcome does not change. -/
theorem read_outcome_irrelevant {j : Journal} {rows : List OutcomeRow} {s s' : CustodySnapshot}
    (hs : readJournal E j = .ok s) (hs' : readJournal E { j with outcome := rows } = .ok s') :
    s'.intentId = s.intentId ∧ s'.intentWire = s.intentWire ∧ s'.attemptId = s.attemptId := by
  obtain ⟨row, value, expected, outcome, id, hrow, -, hid, rfl⟩ := readJournal_eq_ok.mp hs
  obtain ⟨row', value', expected', outcome', id', hrow', -, hid', rfl⟩ := readJournal_eq_ok.mp hs'
  obtain rfl : row = row' := by simpa using hrow.roster.symm.trans hrow'.roster
  obtain rfl : value = value' := Except.ok.inj (hrow.decoded.symm.trans hrow'.decoded)
  exact ⟨Except.ok.inj (hid'.symm.trans hid), rfl, rfl⟩

theorem storeOutcome_same {s : CustodySnapshot} {row : OutcomeRow} {j : Journal}
    (hwire : s.outcomeWire = some row.wire) (hbody : s.responseWire = some row.body) :
    storeOutcome s row j = .ok j := by
  rw [storeOutcome, hwire]
  exact refuseIf_bind_of_not (not_not.mpr ⟨rfl, hbody⟩)

/-- The same outcome is answered from the journal that retains it. -/
theorem retainOutcome_again {kind : OutcomeKind} {reason : String} {body : ByteArray}
    {j j' : Journal} {s : CustodySnapshot} {x : JournalAnswer} (hs : readJournal E j = .ok s)
    (h : retainOutcome E kind reason body j = .ok (x, j')) :
    retainOutcome E kind reason body j' = .ok (x, j') ∧ ∃ s', readJournal E j' = .ok s' := by
  have hagain := h
  rw [retainOutcome, bind_of_ok hs, orRefuse_bind_eq_ok] at h
  obtain ⟨attempt, hattempt, h⟩ := h
  obtain ⟨value, hvalue, h⟩ := bind_eq_ok.mp h
  obtain ⟨hbytes, h⟩ := unit_bind_eq_ok.mp h
  obtain ⟨wire, hwire, h⟩ := bind_eq_ok.mp h
  obtain ⟨j₁, hstore, h⟩ := bind_eq_ok.mp h
  obtain ⟨s', hread, hreturn⟩ := bind_eq_ok.mp h
  obtain ⟨rfl, rfl⟩ := Prod.mk.inj (Except.ok.inj hreturn)
  refine ⟨?_, s', hread⟩
  rw [storeOutcome] at hstore
  rcases (readJournal_snapped hs).outcome with ⟨-, hnone, -⟩ | ⟨row, -, -, -, -, hretained, -⟩
  · rw [hnone] at hstore
    obtain ⟨hempty, rfl⟩ := insertOutcome_eq_ok hstore
    obtain ⟨hid, hintent, hsame⟩ := read_outcome_irrelevant hs hread
    have hstored : s'.outcomeWire = some wire ∧ s'.responseWire = some body := by
      rcases (readJournal_snapped hread).outcome with ⟨hnil, -⟩ |
        ⟨row, -, hrow, -, -, hretained, hbody, -⟩
      · simp at hnil
      · obtain rfl : _ = row := by simpa [hempty] using hrow
        exact ⟨hretained, hbody⟩
    rw [retainOutcome, bind_of_ok hread, hsame, hattempt, hintent, hid]
    change (intentOf E s.intentWire >>= _) = _
    rw [bind_of_ok hvalue, bind_of_ok hbytes, bind_of_ok hwire,
      bind_of_ok (storeOutcome_same hstored.1 hstored.2), bind_of_ok hread]
    rfl
  · rw [hretained] at hstore
    simp only [unit_bind_eq_ok] at hstore
    obtain rfl : j = j₁ := Except.ok.inj hstore.2
    exact hagain

theorem transact_again {op : JournalOp} {j j' : Journal} {s : CustodySnapshot}
    {x : JournalAnswer} (hop : op.retained ≠ none) (hs : readJournal E j = .ok s)
    (h : op.transact E j = .ok (x, j')) : op.transact E j' = .ok (x, j') := by
  cases op with
  | inspect => exact absurd rfl hop
  | debit => exact absurd rfl hop
  | retainResponse response =>
    rw [JournalOp.transact, bind_of_ok hs] at h
    obtain ⟨hagain, s', hread⟩ := retainOutcome_again hs h
    rw [JournalOp.transact, bind_of_ok hread, hagain]
  | retainIndeterminate reason =>
    rw [JournalOp.transact, unit_bind_eq_ok, bind_of_ok hs] at h
    obtain ⟨hreason, h⟩ := h
    obtain ⟨hagain, s', hread⟩ := retainOutcome_again hs h
    rw [JournalOp.transact, bind_of_ok hreason, bind_of_ok hread, hagain]

theorem mem_sortMembers {α : Type} {members : List (String × α)} {m : String × α} :
    m ∈ sortMembers members ↔ m ∈ members :=
  (List.perm_insertionSort _ _).mem_iff

/-- The bytes of an outcome record determine its kind and its reason. -/
theorem outcomeRecord_inj {id attempt : String} {kind kind' : OutcomeKind}
    {reason reason' : String} {body body' wire : ByteArray}
    (h : canonicalDumps E.nfc (.obj (outcomeRecord E id attempt kind reason body)) = .ok wire)
    (h' : canonicalDumps E.nfc (.obj (outcomeRecord E id attempt kind' reason' body')) = .ok wire) :
    kind = kind' ∧ reason = reason' := by
  obtain ⟨v, hv, -⟩ := canonicalDumps_eq_ok.mp h
  obtain ⟨v', hv', -⟩ := canonicalDumps_eq_ok.mp h'
  have hsame := canonicalDumps_inj hv hv' h h'
  rw [normalized_normalForm hv, normalized_normalForm hv'] at hsame
  simp only [outcomeRecord, normalForm, normalFormMembers, Json.obj.injEq] at hsame
  have hmem : ∀ m : String × Json, _ ↔ _ := fun m =>
    (mem_sortMembers.symm.trans (iff_of_eq (congrArg (m ∈ ·) hsame))).trans mem_sortMembers
  have hkind := (hmem ("kind", .str kind.text)).mp (by simp [setItem])
  have hreason := (hmem ("reason", .str reason)).mp (by simp [setItem])
  simp [setItem] at hkind hreason
  refine ⟨?_, hreason⟩
  cases kind <;> cases kind' <;> simp_all [OutcomeKind.text]

/-- Only the retained outcome is answered from a journal that has one. -/
theorem Transacted.repeats {op : JournalOp} {j j' : Journal} {s : CustodySnapshot}
    {x : JournalAnswer} (h : Transacted E j s op x j') (hop : op.retained ≠ none)
    (hout : j.outcome ≠ []) : ∃ kind reason body attempt wire,
      op.retained = some (kind, reason, body) ∧ s.attemptId = some attempt ∧
      canonicalDumps E.nfc (.obj (outcomeRecord E s.intentId attempt kind reason body)) =
        .ok wire ∧ j.outcome = [{ id := 1, wire := wire, body := body }] := by
  cases h with
  | inspected => exact absurd rfl hop
  | debited => exact absurd rfl hop
  | retained _ _ _ houtcome _ => exact absurd houtcome hout
  | repeated hkind hattempt hwire houtcome =>
    exact ⟨_, _, _, _, _, hkind, hattempt, hwire, houtcome⟩

theorem transact_other {op op' : JournalOp} {j j₁ j₂ : Journal} {s : CustodySnapshot}
    {x x' : JournalAnswer} (hs : readJournal E j = .ok s) (hout : j.outcome ≠ [])
    (hop : op.retained ≠ none) (hop' : op'.retained ≠ none)
    (h : op.transact E j = .ok (x, j₁)) (h' : op'.transact E j = .ok (x', j₂)) : op = op' := by
  obtain ⟨kind, reason, body, attempt, wire, hkind, hattempt, hwire, hrow⟩ :=
    (transact_ok hs h).repeats hop hout
  obtain ⟨kind', reason', body', attempt', wire', hkind', hattempt', hwire', hrow'⟩ :=
    (transact_ok hs h').repeats hop' hout
  obtain rfl : attempt = attempt' := Option.some.inj (hattempt.symm.trans hattempt')
  obtain ⟨rfl, rfl⟩ : wire = wire' ∧ body = body' := by simpa using hrow.symm.trans hrow'
  obtain ⟨rfl, rfl⟩ := outcomeRecord_inj hwire hwire'
  exact JournalOp.eq_of_retained hop (hkind.trans hkind'.symm)

/-! ## Progress -/

/-- A snapshot of no outcome is of a journal that has none. -/
theorem Snapped.unsettled {j : Journal} {s : CustodySnapshot} (h : Snapped j s)
    (hstatus : ∀ kind : OutcomeKind, s.status ≠ kind.status) : j.outcome = [] ∧
      s.outcomeWire = none ∧
      s.status = if j.debit = [] then .prepared else .attemptIndeterminate := by
  rcases h.outcome with hnone | ⟨_, kind, _, _, _, _, _, hsame⟩
  · exact hnone
  · exact absurd hsame (hstatus kind)

/-- A prepared journal takes a debit, and its attempt is outstanding then. -/
theorem debit_commits {j : Journal} {s : CustodySnapshot} (hs : readJournal E j = .ok s)
    (hstatus : s.status = .prepared) :
    ∃ attempt j' s', JournalOp.debit.transact E j = .ok (.attempt attempt, j') ∧
      readJournal E j' = .ok s' ∧ s'.status = .attemptIndeterminate ∧
      s'.intentWire = s.intentWire := by
  obtain ⟨row, value, attempt, outcome, id, hrow, houtcome, hid, rfl⟩ := readJournal_eq_ok.mp hs
  obtain ⟨hnone, -, hprepared⟩ := (readJournal_snapped hs).unsettled fun kind => by
    rw [hstatus]
    cases kind <;> decide
  have hdebit : j.debit = [] := by
    by_contra hspent
    rw [if_neg hspent, hstatus] at hprepared
    cases hprepared
  have hinsert : insertDebit j { id := 1, binding := attempt } =
      .ok { j with debit := j.debit ++ [{ id := 1, binding := attempt }] } := by
    rw [insertDebit, refuseIf_bind_of_not (not_not.mpr hdebit), refuseIf_bind_of_not
      (not_not.mpr ⟨row, by simp [hrow.roster], hrow.stored.1⟩), refuseIf_bind_of_not (by simp)]
    rfl
  obtain ⟨s', hread⟩ := read_debited hs hrow.decoded hrow.identity hdebit hnone
  refine ⟨attempt, _, s', ?_, hread, ?_, ?_⟩
  · rw [JournalOp.transact, bind_of_ok hs, bind_of_ok hs,
      refuseIf_bind_of_not (not_not.mpr hstatus)]
    refine bind_eq_ok.mpr ⟨value, hrow.decoded, bind_eq_ok.mpr ⟨attempt, hrow.identity, ?_⟩⟩
    exact bind_of_ok hinsert
  · rcases (readJournal_snapped hread).outcome with ⟨-, -, hsame⟩ | ⟨_, _, hstored, -⟩
    · rwa [if_neg (by simp)] at hsame
    · simp [hnone] at hstored
  · obtain ⟨row', _, _, _, _, hrow', -, -, rfl⟩ := readJournal_eq_ok.mp hread
    obtain rfl : row = row' := by simpa using hrow.roster.symm.trans hrow'.roster
    rfl

/-- The members of an outcome record, in the order of their keys. -/
theorem sortMembers_outcomeRecord (id attempt : String) (kind : OutcomeKind) (reason : String)
    (body : ByteArray) : sortMembers (outcomeRecord E id attempt kind reason body) =
      [("attempt_id", .str attempt), ("body_sha256", .str (E.sha256Hex body)),
        ("body_size", .int body.size), ("intent_id", .str id), ("kind", .str kind.text),
        ("reason", .str reason), ("schema", .str outcomeSchema)] := by
  simp [sortMembers, outcomeRecord]

/-- What a written outcome record says. -/
theorem outcomeRecord_fields {id attempt : String} {kind : OutcomeKind} {reason : String}
    {body : ByteArray} {value : Fields}
    (hvalue : value = sortMembers (outcomeRecord E id attempt kind reason body)) :
    (Fields.text? value "intent_id" = some id ∧ Fields.text? value "attempt_id" = some attempt) ∧
      (Fields.text? value "kind" = some kind.text ∧ Fields.text? value "reason" = some reason) ∧
      Fields.integer? value "body_size" = some (body.size : ℤ) ∧
      Fields.text? value "body_sha256" = some (E.sha256Hex body) := by
  rw [hvalue, sortMembers_outcomeRecord]
  exact ⟨⟨rfl, rfl⟩, ⟨rfl, rfl⟩, rfl, rfl⟩

theorem length_sha256Hex (data : ByteArray) : (E.sha256Hex data).length = 64 := by
  rw [CustodyEnv.sha256Hex, String.length_ofList, length_hexdigest]

theorem isAscii_sha256Hex (data : ByteArray) : isAscii (E.sha256Hex data) = true := by
  have h := isAscii_contentIdText (E.sha256 data)
  rw [isAscii, contentIdText, String.toList_append, List.all_append, Bool.and_eq_true] at h
  exact h.2

/-- An outcome record of identities, of a short reason and of a body within the limits is written
and decoded. -/
theorem outcomeRecord_decoded {d d' : BitVec 256} {kind : OutcomeKind} {reason : String}
    {body : ByteArray} (hreason : isAscii reason = true ∧ reason.length ≤ 32)
    (hbody : body.size ≤ maxResponse) {value : Fields}
    (hvalue : value = sortMembers (outcomeRecord E (contentIdText d) (contentIdText d') kind reason
      body)) :
    canonicalDumps E.nfc (.obj (outcomeRecord E (contentIdText d) (contentIdText d') kind reason
        body)) = .ok (encoded (.obj value)) ∧
      (0 < (encoded (.obj value)).size ∧ (encoded (.obj value)).size ≤ maxRecord) ∧
      decodeRecord E (encoded (.obj value)) outcomeSchema outcomeFields = .ok value := by
  have hkind : isAscii kind.text = true ∧ kind.text.length ≤ 32 := by
    cases kind <;> decide +kernel
  have hkeys : ∀ m ∈ outcomeRecord E (contentIdText d) (contentIdText d') kind reason body,
      ValidKey E.nfc m.1 := by
    have hplain : ∀ key ∈ ["schema", "intent_id", "attempt_id", "kind", "reason", "body_size",
        "body_sha256"], isAscii key = true ∧ key.length ≤ maxKeyCodepoints ∧
          key.length ≤ maxStringCodepoints ∧ isSnakeCase key = true := by decide +kernel
    intro m hm
    obtain ⟨hascii, hshort, hlength, hsnake⟩ := hplain m.1 (List.mem_map_of_mem hm)
    exact ⟨validString_of_ascii hascii hlength, hshort, hsnake⟩
  have hscalars : ∀ m ∈ outcomeRecord E (contentIdText d) (contentIdText d') kind reason body,
      Scalar E.nfc m.2 := by
    simp only [outcomeRecord, List.forall_mem_cons, List.not_mem_nil, false_implies, implies_true,
      and_true]
    have htext : ∀ {s : String}, isAscii s = true → s.length ≤ 71 → Scalar E.nfc (.str s) :=
      fun hs hlength => .str (validString_of_ascii hs (hlength.trans (by decide)))
    refine ⟨htext (by decide +kernel) (by decide +kernel), htext (isAscii_contentIdText d)
      (length_contentIdText d).le, htext (isAscii_contentIdText d') (length_contentIdText d').le,
      htext hkind.1 (by omega), htext hreason.1 (by omega), .int ?_ ?_,
      htext (isAscii_sha256Hex body) (by rw [length_sha256Hex]; decide)⟩
    · exact le_trans (by decide) (Int.natCast_nonneg _)
    · exact le_trans (Int.ofNat_le.mpr hbody) (by decide)
  have hnormal := normalized_scalars hkeys (by simp [outcomeRecord]) hscalars
    (by simp [outcomeRecord, maxContainerItems])
  rw [← hvalue] at hnormal
  obtain ⟨-, -, hshrinks, hstable⟩ := normalized_spec hnormal
  have hsize : (encoded (.obj value)).size ≤ maxRecord := by
    rw [size_encoded]
    refine hshrinks.trans ((textSize_dumps_le _).trans ?_)
    have hdigits : textSize (dumpsInt (body.size : ℤ)) ≤ 5 := by
      change textSize (Nat.toDigits 10 body.size) ≤ 5
      rw [textSize_digits (isDigit_toDigits _)]
      exact (Nat.length_toDigits_le_iff (by decide) (by decide)).mpr (by
        rw [maxResponse] at hbody
        omega)
    have hnames : (["schema", "intent_id", "attempt_id", "kind", "reason", "body_size",
        "body_sha256"].map String.length).sum = 55 := by decide +kernel
    have hschema : outcomeSchema.length = 36 := by decide +kernel
    have hhex := length_sha256Hex (E := E) body
    have hid := length_contentIdText d
    have hid' := length_contentIdText d'
    simp only [List.map_cons, List.map_nil, List.sum_cons, List.sum_nil] at hnames
    simp only [outcomeRecord, weight, weightMembers, maxRecord]
    omega
  have hpos : 0 < (encoded (.obj value)).size := by
    rw [size_encoded, textSize_dumps_obj]
    omega
  refine ⟨canonicalDumps_eq_ok.mpr ⟨_, hnormal, hsize.trans (by decide), rfl⟩, ⟨hpos, hsize⟩,
    decodeRecord_encoded hstable hpos hsize ?_ ?_⟩
  · have hsorted : outcomeFields.Perm ["attempt_id", "body_sha256", "body_size", "intent_id",
        "kind", "reason", "schema"] := by decide
    rw [hvalue, sortMembers_outcomeRecord]
    exact ⟨fun key hkey => hsorted.mem_iff.mpr hkey, fun key hkey => hsorted.mem_iff.mp hkey⟩
  · rw [hvalue, sortMembers_outcomeRecord]
    rfl

/-- An outcome that `_retain` can write : a response that is not empty and within the limit, or one
of the reasons. -/
def JournalOp.Admissible (limit : ℕ) : JournalOp → Prop
  | .retainResponse response => 0 < response.size ∧ response.size ≤ limit
  | .retainIndeterminate reason => reason ∈ indeterminateReasons
  | _ => False

theorem responseLimit_le {wire : ByteArray} {value : Fields} (h : intentOf E wire = .ok value) :
    responseLimit value ≤ maxResponse := by
  obtain ⟨decoded, -, hrest⟩ := bind_eq_ok.mp h
  simp only [unit_bind_eq_ok, refuseIf_eq_ok, not_not] at hrest
  obtain ⟨-, -, -, -, -, -, ⟨n, hn, -, hle⟩, hreturn⟩ := hrest
  obtain rfl := Except.ok.inj hreturn
  rw [responseLimit, Option.mem_def.mp hn, Option.getD_some]
  omega

theorem contentIdText_of_intentId {value : Fields} {id : String} (h : intentId E value = .ok id) :
    ∃ d, id = contentIdText d := by
  obtain ⟨p, -, hreturn⟩ := bind_eq_ok.mp h
  exact ⟨_, (Except.ok.inj hreturn).symm⟩

theorem contentIdText_of_attemptId {value : Fields} {attempt : String}
    (h : attemptId E value = .ok attempt) : ∃ d, attempt = contentIdText d := by
  obtain ⟨_, -, h⟩ := bind_eq_ok.mp h
  obtain ⟨p, -, hreturn⟩ := bind_eq_ok.mp h
  exact ⟨_, (Except.ok.inj hreturn).symm⟩

variable (E) in
/-- The operation retains an outcome that the limit admits, and a written record of it is known by
its kind. -/
structure Settles (limit : ℕ) (op : JournalOp) (kind : OutcomeKind) (reason : String)
    (body : ByteArray) : Prop where
  transact : ∀ j s, readJournal E j = .ok s → op.transact E j = retainOutcome E kind reason body j
  short : isAscii reason = true ∧ reason.length ≤ 32
  full : kind ≠ .captureIndeterminate → body.size ≠ 0
  within : body.size ≤ limit
  known : ∀ value, Fields.text? value "kind" = some kind.text →
    Fields.text? value "reason" = some reason → outcomeKind value body = .ok kind

theorem JournalOp.Admissible.settles {op : JournalOp} {limit : ℕ} (h : op.Admissible limit) :
    ∃ kind reason body, Settles E limit op kind reason body := by
  have hreasons : ∀ reason ∈ indeterminateReasons, isAscii reason = true ∧ reason.length ≤ 32 := by
    decide +kernel
  cases op with
  | retainResponse response =>
    refine ⟨.responseCaptured, "opaque_response", response, {
      transact := fun j s hs => bind_of_ok hs
      short := by decide +kernel
      full := fun _ => h.1.ne'
      within := h.2
      known := fun value hkind hreason => ?_ }⟩
    rw [outcomeKind, if_pos hkind, refuseIf_bind_of_not (not_not.mpr ⟨hreason, h.1⟩)]
    rfl
  | retainIndeterminate reason =>
    refine ⟨.captureIndeterminate, reason, ⟨#[]⟩, {
      transact := fun j s hs => ?_
      short := hreasons reason h
      full := fun hne => absurd rfl hne
      within := Nat.zero_le _
      known := fun value hkind hreason => ?_ }⟩
    · have hlisted : ¬reason ∉ indeterminateReasons := not_not.mpr h
      rw [JournalOp.transact, refuseIf_bind_of_not hlisted, bind_of_ok hs]
    · have hother : ¬Fields.text? value "kind" = some OutcomeKind.responseCaptured.text := by
        rw [hkind]
        decide
      rw [outcomeKind, if_neg hother, refuseIf_bind_of_not
        (not_not.mpr ⟨hkind, ⟨reason, hreason, decide_eq_true h⟩, rfl⟩)]
      rfl
  | inspect => exact h.elim
  | debit => exact h.elim

/-- A stored outcome reads back as its kind. -/
theorem Settles.read_stored {op : JournalOp} {j : Journal} {value record : Fields}
    {d d' : BitVec 256} {kind : OutcomeKind} {reason : String} {body wire : ByteArray}
    {stored : OutcomeRow} (h : Settles E (responseLimit value) op kind reason body)
    (hvalue : intentOf E wire = .ok value) (hid : intentId E value = .ok (contentIdText d))
    (hrecord : record = sortMembers
      (outcomeRecord E (contentIdText d) (contentIdText d') kind reason body))
    (hstored : stored = { id := 1, wire := encoded (.obj record), body := body }) :
    readOutcome E { j with outcome := [stored] } value (some (contentIdText d')) =
      .ok (some (kind.status, stored)) := by
  obtain ⟨-, hsize, hdecoded⟩ :=
    outcomeRecord_decoded h.short (h.within.trans (responseLimit_le hvalue)) hrecord
  obtain ⟨hbinding, hsaid, hbytes⟩ := outcomeRecord_fields hrecord
  have hlimit : requireBytes body (responseLimit value) "stored_body" true = .ok () :=
    refuseIf_eq_ok.mpr (by simpa using h.within)
  subst hstored
  rw [readOutcome]
  change (refuseIf _ _ >>= _) = _
  rw [refuseIf_bind_of_not (by simp)]
  refine orRefuse_bind_eq_ok.mpr ⟨_, rfl, ?_⟩
  rw [refuseIf_bind_of_not (by simp),
    refuseIf_bind_of_not (not_not.mpr ⟨hsize.1, hsize.2, h.within⟩), bind_of_ok hdecoded,
    bind_of_ok hid, refuseIf_bind_of_not (not_not.mpr hbinding), bind_of_ok hlimit,
    refuseIf_bind_of_not (not_not.mpr hbytes), bind_of_ok (h.known record hsaid.1 hsaid.2)]
  rfl

/-- An outstanding attempt can be settled by every outcome that the intent admits. -/
theorem retention_commits {op : JournalOp} {j : Journal} {s : CustodySnapshot} {value : Fields}
    (hs : readJournal E j = .ok s) (hstatus : s.status = .attemptIndeterminate)
    (hvalue : intentOf E s.intentWire = .ok value) (hop : op.Admissible (responseLimit value)) :
    ∃ s' j', op.transact E j = .ok (.snapshot s', j') ∧ j'.outcome ≠ [] := by
  obtain ⟨kind, reason, body, hsettles⟩ : ∃ kind reason body,
      Settles E (responseLimit value) op kind reason body := hop.settles
  obtain ⟨row, value', expected, outcome, id, hrow, houtcome, hid, rfl⟩ := readJournal_eq_ok.mp hs
  obtain rfl : value = value' := Except.ok.inj (hvalue.symm.trans hrow.decoded)
  obtain ⟨d, rfl⟩ := contentIdText_of_intentId hid
  obtain ⟨d', hexpected⟩ := contentIdText_of_attemptId hrow.identity
  subst hexpected
  obtain ⟨hnone, hunstored, hspent⟩ := (readJournal_snapped hs).unsettled fun kind => by
    rw [hstatus]
    cases kind <;> decide
  replace hspent : j.debit ≠ [] := by
    intro hempty
    rw [if_pos hempty, hstatus] at hspent
    cases hspent
  obtain ⟨debit, hdebit⟩ : ∃ debit, j.debit.head? = some debit := by
    cases hrows : j.debit with
    | nil => exact absurd hrows hspent
    | cons debit rest => exact ⟨debit, rfl⟩
  have hattempt : j.debit.head?.map DebitRow.binding = some (contentIdText d') := by
    have hsame := hrow.attempt
    simp only [hdebit, Option.map_some, ne_eq, reduceCtorEq, not_false_eq_true, true_and,
      not_not] at hsame ⊢
    exact hsame
  obtain ⟨record, hrecord⟩ : ∃ record, record = sortMembers
      (outcomeRecord E (contentIdText d) (contentIdText d') kind reason body) := ⟨_, rfl⟩
  obtain ⟨hdumps, -, -⟩ :=
    outcomeRecord_decoded hsettles.short (hsettles.within.trans (responseLimit_le hvalue)) hrecord
  let stored : OutcomeRow := { id := 1, wire := encoded (.obj record), body := body }
  have hinsert : insertOutcome j stored = .ok { j with outcome := [stored] } := by
    have hparent : ∃ r ∈ j.debit, r.id = 1 :=
      ⟨debit, List.mem_of_head? hdebit, (hrow.debits.2 debit (List.mem_of_head? hdebit)).1⟩
    rw [insertOutcome, refuseIf_bind_of_not (not_not.mpr hnone),
      refuseIf_bind_of_not (not_not.mpr hparent), refuseIf_bind_of_not (by simp [stored]), hnone]
    rfl
  have hreads : readOutcome E { j with outcome := [stored] } value (some (contentIdText d')) =
      .ok (some (kind.status, stored)) := hsettles.read_stored hvalue hid hrecord rfl
  have hread : readJournal E { j with outcome := [stored] } =
      .ok (snapshotOf { j with outcome := [stored] } row (contentIdText d)
        (some (kind.status, stored))) :=
    readJournal_eq_ok.mpr ⟨row, value, contentIdText d', _, _, { hrow with }, by
      rw [hattempt, hreads], hid, rfl⟩
  have hlimit : requireBytes body (responseLimit value) "response_size"
      (kind = .captureIndeterminate) = .ok () := by
    refine refuseIf_eq_ok.mpr (not_or.mpr ⟨?_, hsettles.within.not_gt⟩)
    rintro ⟨hkept, hempty⟩
    exact hsettles.full (by simpa using hkept) hempty
  have hretain : retainOutcome E kind reason body j = .ok (.snapshot (snapshotOf
      { j with outcome := [stored] } row (contentIdText d) (some (kind.status, stored))),
        { j with outcome := [stored] }) := by
    rw [retainOutcome, bind_of_ok hs]
    refine orRefuse_bind_eq_ok.mpr ⟨_, hattempt, ?_⟩
    refine bind_eq_ok.mpr ⟨value, hvalue, unit_bind_eq_ok.mpr ⟨hlimit, ?_⟩⟩
    refine bind_eq_ok.mpr ⟨_, hdumps, bind_eq_ok.mpr ⟨_, ?_, bind_eq_ok.mpr ⟨_, hread, rfl⟩⟩⟩
    rw [storeOutcome, hunstored]
    exact hinsert
  exact ⟨_, _, (hsettles.transact j _ hs).trans hretain, by simp⟩

/-! ## Processes -/

/-- What `_supervise` comes to, a `KeyboardInterrupt` in it and any other error among it. -/
inductive TransportReply
  | result (reason : String) (response : ByteArray)
  | interrupted
  | raised (e : String)

/-- What a process asks for : a transaction on the journal, or a run of the worker. -/
inductive CaptureCall : Type → Type 1
  | journal (op : JournalOp) : CaptureCall (Except String JournalAnswer)
  | supervise (packet : ByteArray) (cap timeoutMs : ℕ) : CaptureCall TransportReply

/-- What happened to a process. -/
inductive CustodyEvent
  | replied (op : JournalOp) (reply : Except String JournalAnswer)
  | dispatched

/-- The committed journal, and what happened so far with the process it happened to. -/
structure CustodyWorld (ι : Type) where
  journal : Journal
  log : List (ι × CustodyEvent)

variable (E) in
/-- A call of process `i`. A transaction commits or leaves the journal as it was, after a refusal
or a failure of any kind ; the process may learn of neither. -/
inductive Custody {ι : Type} (i : ι) :
    (σ : Type) → CustodyWorld ι → CaptureCall σ → σ → CustodyWorld ι → Prop
  | answered {w op x j} (h : op.transact E w.journal = .ok (x, j)) :
      Custody i _ w (.journal op) (.ok x) ⟨j, w.log ++ [(i, .replied op (.ok x))]⟩
  | lost {w op x j e} (h : op.transact E w.journal = .ok (x, j)) :
      Custody i _ w (.journal op) (.error e) ⟨j, w.log ++ [(i, .replied op (.error e))]⟩
  | failed {w op e} :
      Custody i _ w (.journal op) (.error e) ⟨w.journal, w.log ++ [(i, .replied op (.error e))]⟩
  | supervised {w packet cap timeoutMs reply} :
      Custody i _ w (.supervise packet cap timeoutMs) reply
        ⟨w.journal, w.log ++ [(i, .dispatched)]⟩

/-- The process that a debit answered. -/
def debtor {ι : Type} : ι × CustodyEvent → Option ι
  | (i, .replied .debit (.ok _)) => some i
  | _ => none

/-- The process that started a worker. -/
def dispatcher {ι : Type} : ι × CustodyEvent → Option ι
  | (i, .dispatched) => some i
  | _ => none

section Processes

variable {ι : Type} {i : ι} {σ : Type} {c : CaptureCall σ} {y : σ} {w w' : CustodyWorld ι}

/-- A call that answers no debit and leaves the journal, or the commit of a transaction. -/
theorem Custody.cases (h : Custody E i σ w c y w') : ∃ e, w'.log = w.log ++ [(i, e)] ∧
    ((w'.journal = w.journal ∧ debtor (i, e) = none) ∨
      ∃ op : JournalOp, ∃ x reply, e = .replied op reply ∧
        op.transact E w.journal = .ok (x, w'.journal)) := by
  cases h with
  | answered h => exact ⟨_, rfl, Or.inr ⟨_, _, _, rfl, h⟩⟩
  | lost h => exact ⟨_, rfl, Or.inr ⟨_, _, _, rfl, h⟩⟩
  | @failed _ op e =>
    refine ⟨_, rfl, Or.inl ⟨rfl, ?_⟩⟩
    cases op <;> rfl
  | supervised => exact ⟨_, rfl, Or.inl ⟨rfl, rfl⟩⟩

/-- A transaction answers at most the debit it stores. -/
theorem Transacted.debits {op : JournalOp} {j j' : Journal} {s : CustodySnapshot}
    {x : JournalAnswer} {reply : Except String JournalAnswer} (h : Transacted E j s op x j') :
    (List.filterMap debtor [(i, .replied op reply)]).length + j.debit.length ≤
      j'.debit.length := by
  cases h with
  | inspected => simp [debtor]
  | debited =>
    have hone := List.length_filterMap_le debtor [(i, .replied .debit reply)]
    simp only [List.length_append, List.length_singleton] at *
    omega
  | @retained op _ _ _ _ _ _ hop => cases op <;> simp_all [debtor, JournalOp.retained]
  | @repeated op _ _ _ _ _ hop => cases op <;> simp_all [debtor, JournalOp.retained]

variable (E) in
/-- The journal reads, and no more debits were answered than it stores. -/
structure InCustody (w : CustodyWorld ι) : Prop where
  reads : ∃ s, readJournal E w.journal = .ok s
  answers : (w.log.filterMap debtor).length ≤ w.journal.debit.length

theorem InCustody.step (hw : InCustody E w) (h : Custody E i σ w c y w') : InCustody E w' := by
  obtain ⟨⟨s, hs⟩, hanswers⟩ := hw
  obtain ⟨e, hlog, ⟨hsame, hnone⟩ | ⟨op, x, reply, rfl, hop⟩⟩ := h.cases
  · refine ⟨⟨s, by rw [hsame, hs]⟩, ?_⟩
    rw [hlog, List.filterMap_append, hsame]
    simpa [hnone] using hanswers
  · have htransacted := transact_ok hs hop
    refine ⟨htransacted.reads hs, ?_⟩
    have hdebits : (List.filterMap debtor [(i, .replied op reply)]).length + _ ≤ _ :=
      htransacted.debits
    rw [hlog, List.filterMap_append, List.length_append]
    omega

theorem InCustody.run (hw : InCustody E w) (h : Interferes (Custody E) w w') :
    InCustody E w' := by
  induction h with
  | refl => exact hw
  | tail _ hstep ih =>
    obtain ⟨i, σ, c, y, hcall⟩ := hstep
    exact ih.step hcall

theorem createJournal_inCustody {wire request : ByteArray} {j : Journal}
    (h : createJournal E wire request = .ok j) :
    InCustody E (⟨j, []⟩ : CustodyWorld ι) := by
  obtain ⟨s, hs, -⟩ := createJournal_prepared h
  exact ⟨⟨s, hs⟩, Nat.zero_le _⟩

/-- Nothing changes a journal with an outcome. -/
theorem InCustody.frozen (hw : InCustody E w) (hout : w.journal.outcome ≠ [])
    (h : Interferes (Custody E) w w') : w'.journal = w.journal := by
  induction h with
  | refl => rfl
  | @tail v v' hrun hstep ih =>
    obtain ⟨i, σ, c, y, hcall⟩ := hstep
    obtain ⟨s, hs⟩ := (hw.run hrun).reads
    obtain ⟨e, -, ⟨hsame, -⟩ | ⟨op, x, reply, -, hop⟩⟩ := hcall.cases
    · rw [hsame, ih]
    · rw [(transact_ok hs hop).frozen (by rwa [ih]), ih]

end Processes

/-! ## Capture -/

/-- `_preflight` : what it checks before it inspects the journal, and the packet, the cap and the
timeout it makes of the snapshot. -/
structure Preflight where
  checks : Except String Unit
  packet : CustodySnapshot → Except String (ByteArray × ℕ × ℕ)

/-- A journal operation as a program. -/
def callJournal (op : JournalOp) : Prog CaptureCall String JournalAnswer :=
  .call (.journal op) fun reply => .done reply

/-- `journal.inspect()`. -/
def callInspect : Prog CaptureCall String CustodySnapshot :=
  .call (.journal .inspect) fun
    | .ok (.snapshot s) => pure s
    | .ok (.attempt _) => .raise "inspect"
    | .error e => .raise e

/-- `_supervise`. -/
def supervise (packet : ByteArray) (cap timeoutMs : ℕ) : Prog CaptureCall String TransportReply :=
  .call (.supervise packet cap timeoutMs) pure

/-- `capture_observed`. -/
def captureObserved (preflight : Preflight) : Prog CaptureCall String JournalAnswer := do
  .done preflight.checks
  let state ← callInspect
  let (packet, cap, timeoutMs) ← .done (preflight.packet state)
  let _ ← callJournal .debit
  let reply ← supervise packet cap timeoutMs
  match reply with
  | .interrupted => do
    let _ ← callJournal (.retainIndeterminate "operator_stop")
    .raise "KeyboardInterrupt"
  | .raised e => .raise e
  | .result reason response =>
    if reason = "response" then callJournal (.retainResponse response)
    else callJournal (.retainIndeterminate reason)

/-- A capture that runs alone over a prepared journal debits it, dispatches one worker and retains
the response. -/
theorem captureObserved_retains {ι : Type} {i : ι} {preflight : Preflight} {w : CustodyWorld ι}
    {s : CustodySnapshot} {value : Fields} {packet response : ByteArray} {cap timeoutMs : ℕ}
    (hs : readJournal E w.journal = .ok s) (hstatus : s.status = .prepared)
    (hvalue : intentOf E s.intentWire = .ok value) (hchecks : preflight.checks = .ok ())
    (hpacket : preflight.packet s = .ok (packet, cap, timeoutMs))
    (hresponse : (JournalOp.retainResponse response).Admissible (responseLimit value)) :
    ∃ x w', Ends (Custody E i) w (captureObserved preflight) (.ok x) w' ∧
      w'.journal.outcome ≠ [] ∧
      w'.log.filterMap debtor = w.log.filterMap debtor ++ [i] ∧
      w'.log.filterMap dispatcher = w.log.filterMap dispatcher ++ [i] := by
  have hinspect : JournalOp.inspect.transact E w.journal = .ok (.snapshot s, w.journal) := by
    rw [JournalOp.transact, bind_of_ok hs, bind_of_ok hs]
    rfl
  obtain ⟨attempt, j₁, s₁, hdebit, hread, hspent, hwire⟩ := debit_commits hs hstatus
  obtain ⟨s₂, j₂, hretain, houtcome⟩ :=
    retention_commits hread hspent (hwire.symm ▸ hvalue) hresponse
  refine ⟨.snapshot s₂, ⟨j₂, w.log ++ [(i, .replied .inspect (.ok (.snapshot s)))] ++
    [(i, .replied .debit (.ok (.attempt attempt)))] ++ [(i, .dispatched)] ++
      [(i, .replied (.retainResponse response) (.ok (.snapshot s₂)))]⟩, ?_, houtcome, ?_, ?_⟩
  · rw [captureObserved, hchecks, Prog.ok_bind]
    refine .call (.answered hinspect) ?_
    change Ends _ _ (Prog.done (preflight.packet s) >>= _) _ _
    rw [hpacket, Prog.ok_bind]
    refine .call (.answered hdebit) ?_
    refine .call (y := TransportReply.result "response" response) .supervised ?_
    exact .call (.answered hretain) .done
  · simp only [List.append_assoc, List.filterMap_append]
    rfl
  · simp only [List.append_assoc, List.filterMap_append]
    rfl

/-- The debits a reply answers. -/
def earned {σ : Type} : CaptureCall σ → σ → ℕ
  | .journal .debit, .ok _ => 1
  | _, _ => 0

/-- The workers a call starts. -/
def spent {σ : Type} : CaptureCall σ → ℕ
  | .journal _ => 0
  | .supervise _ _ _ => 1

/-- A program starts at most `n` workers more than debits are answered to it. -/
def Budgeted : ℕ → Prog CaptureCall String JournalAnswer → Prop
  | _, .done _ => True
  | n, .call c next => spent c ≤ n ∧ ∀ y, Budgeted (n - spent c + earned c y) (next y)

theorem budgeted_call {n : ℕ} {op : JournalOp} {next} :
    Budgeted n (.call (.journal op) next) ↔
      ∀ y, Budgeted (n + earned (.journal op) y) (next y) := by
  simp [Budgeted, spent]

theorem captureObserved_budgeted (preflight : Preflight) :
    Budgeted 0 (captureObserved preflight) := by
  obtain ⟨checks, packet⟩ := preflight
  rcases checks with e | u
  · trivial
  refine budgeted_call.mpr fun inspected => ?_
  rcases inspected with e | ⟨id | state⟩
  · trivial
  · trivial
  change Budgeted 0 (Prog.bind (.done (packet state)) _)
  rcases packet state with e | ⟨packet, cap, timeoutMs⟩
  · trivial
  refine budgeted_call.mpr fun debited => ?_
  rcases debited with e | attempt
  · trivial
  refine ⟨le_rfl, fun reply => ?_⟩
  rcases reply with ⟨reason, response⟩ | - | e
  · change Budgeted _ (if _ then _ else _)
    split_ifs
    · exact budgeted_call.mpr fun _ => trivial
    · exact budgeted_call.mpr fun _ => trivial
  · refine budgeted_call.mpr fun retained => ?_
    rcases retained with e | x <;> trivial
  · trivial

/-- A program that never starts a worker. -/
def NoWorker (σ : Type) (c : CaptureCall σ) : Prop := spent c = 0

theorem budgeted_of_calls {p : Prog CaptureCall String JournalAnswer} (h : p.Calls NoWorker)
    (n : ℕ) : Budgeted n p := by
  induction p generalizing n with
  | done r => trivial
  | call c next ih => exact ⟨(h.1 : spent c = 0) ▸ Nat.zero_le n, fun y => ih y (h.2 y) _⟩

section Pools

variable {ι : Type} [DecidableEq ι]

/-- Every process started at most as many workers as debits were answered to it, with what its
program may still start. -/
def Solvent (P : Pool ι (CustodyWorld ι) CaptureCall String JournalAnswer) : Prop :=
  ∀ i, ∃ n, Budgeted n (P.thread i) ∧
    (P.state.log.filterMap dispatcher).count i + n ≤ (P.state.log.filterMap debtor).count i

/-- A call moves the counts of its own process by what it spends and earns. -/
theorem Custody.counts {i k : ι} {σ : Type} {c : CaptureCall σ} {y : σ} {w w' : CustodyWorld ι}
    (h : Custody E i σ w c y w') :
    (w'.log.filterMap dispatcher).count k =
        (w.log.filterMap dispatcher).count k + (if k = i then spent c else 0) ∧
      (w'.log.filterMap debtor).count k =
        (w.log.filterMap debtor).count k + (if k = i then earned c y else 0) := by
  have hcons : ∀ (f : ι × CustodyEvent → Option ι) (e : ι × CustodyEvent),
      (List.filterMap f (w.log ++ [e])).count k =
        (w.log.filterMap f).count k + (f e).toList.count k := by
    intro f e
    rw [List.filterMap_append, List.count_append, List.filterMap_cons]
    cases f e <;> rfl
  cases h with
  | @answered _ op =>
    refine ⟨hcons _ _ |>.trans ?_, hcons _ _ |>.trans ?_⟩
    · simp [dispatcher, spent]
    · cases op <;> simp [debtor, earned, List.count_singleton', eq_comm]
  | @lost _ op =>
    refine ⟨hcons _ _ |>.trans ?_, hcons _ _ |>.trans ?_⟩
    · simp [dispatcher, spent]
    · cases op <;> simp [debtor, earned]
  | @failed _ op =>
    refine ⟨hcons _ _ |>.trans ?_, hcons _ _ |>.trans ?_⟩
    · simp [dispatcher, spent]
    · cases op <;> simp [debtor, earned]
  | supervised =>
    refine ⟨hcons _ _ |>.trans ?_, hcons _ _ |>.trans ?_⟩
    · simp [dispatcher, spent, List.count_singleton', eq_comm]
    · simp [debtor, earned]

theorem Solvent.step {P Q : Pool ι (CustodyWorld ι) CaptureCall String JournalAnswer}
    (hP : Solvent P) (h : Pool.Step (Custody E) P Q) : Solvent Q := by
  cases h with
  | @call σ s s₁ thread j c y next hj hcall =>
    intro i
    obtain ⟨n, hn, hcount⟩ := hP i
    obtain ⟨hdispatched, hdebited⟩ := hcall.counts (k := i)
    dsimp only at hn hcount ⊢
    by_cases hij : i = j
    · subst hij
      rw [hj] at hn
      obtain ⟨hspent, hnext⟩ := hn
      refine ⟨n - spent c + earned c y, by simpa using hnext y, ?_⟩
      rw [if_pos rfl] at hdispatched hdebited
      omega
    · rw [if_neg hij] at hdispatched hdebited
      refine ⟨n, by simpa [hij] using hn, ?_⟩
      omega

theorem Solvent.run {P Q : Pool ι (CustodyWorld ι) CaptureCall String JournalAnswer}
    (hP : Solvent P) (h : Pool.Run (Custody E) P Q) : Solvent Q := by
  induction h with
  | refl => exact hP
  | tail _ hstep ih => exact ih.step hstep

/-- Solvent processes start no more workers than debits are answered. -/
theorem Solvent.dispatches {P : Pool ι (CustodyWorld ι) CaptureCall String JournalAnswer}
    (hP : Solvent P) :
    (P.state.log.filterMap dispatcher).length ≤ (P.state.log.filterMap debtor).length := by
  refine (List.subperm_ext_iff.mpr fun i _ => ?_).length_le
  obtain ⟨n, -, hcount⟩ := hP i
  omega

end Pools

/-! ## Custody -/

section Laws

variable {ι : Type}

variable (E) in
/-- An outcome is settled : the same one is answered without change, any other is refused. -/
def Settled (op : JournalOp) (x : JournalAnswer) (w : CustodyWorld ι) : Prop :=
  op.transact E w.journal = .ok (x, w.journal) ∧
    ∀ (op' : JournalOp) (i : ι) r w', op'.retained ≠ none → op' ≠ op →
      Custody E i _ w (.journal op') r w' → (∃ e, r = .error e) ∧ w'.journal = w.journal

variable (E) in
/-- What custody promises of a reached world, of the next call and of every later world. -/
structure CustodyLaws (w : CustodyWorld ι) : Prop where
  reads : ∃ s, readJournal E w.journal = .ok s
  debited_once : (w.log.filterMap debtor).length ≤ 1
  outcome_once : w.journal.outcome.length ≤ 1
  outcome_debited : w.journal.outcome ≠ [] → w.journal.debit ≠ []
  stored_after_debit : ∀ (i : ι) σ c y w', Custody E i σ w c y w' →
    w'.journal.outcome ≠ w.journal.outcome → w.journal.debit ≠ [] ∧ w.journal.outcome = []
  moves : ∀ (i : ι) σ c y w' s s', Custody E i σ w c y w' → readJournal E w.journal = .ok s →
    readJournal E w'.journal = .ok s' → s.status.Moves s'.status
  kept : ∀ w', Interferes (Custody E) w w' → w.journal.outcome ≠ [] →
    w'.journal.outcome = w.journal.outcome
  settled : ∀ (op : JournalOp) (i : ι) r w₁ x w₂, op.retained ≠ none →
    Custody E i _ w (.journal op) r w₁ → op.transact E w.journal = .ok (x, w₁.journal) →
    Interferes (Custody E) w₁ w₂ → Settled E op x w₂

/-- A committed retention leaves an outcome. -/
theorem Transacted.outcome {op : JournalOp} {j j' : Journal} {s : CustodySnapshot}
    {x : JournalAnswer} (h : Transacted E j s op x j') (hop : op.retained ≠ none) :
    j'.outcome ≠ [] := by
  cases h with
  | inspected => exact absurd rfl hop
  | debited => exact absurd rfl hop
  | retained => simp
  | repeated _ _ _ houtcome => simp [houtcome]

/-- The call is a transaction that can commit. -/
def CanCommit {σ : Type} (E : CustodyEnv) (j : Journal) : CaptureCall σ → Prop
  | .journal op => ∃ x j', op.transact E j = .ok (x, j')
  | .supervise _ _ _ => True

/-- The reply is an error. -/
def Fails {σ : Type} : CaptureCall σ → σ → Prop
  | .journal _, reply => ∃ e, reply = .error e
  | .supervise _ _ _, _ => False

/-- What cannot commit fails without a change. -/
theorem Custody.fails {i : ι} {σ : Type} {c : CaptureCall σ} {y : σ} {w w' : CustodyWorld ι}
    (h : Custody E i σ w c y w') (hc : ¬CanCommit E w.journal c) :
    Fails c y ∧ w'.journal = w.journal := by
  cases h with
  | answered h => exact absurd ⟨_, _, h⟩ hc
  | lost h => exact absurd ⟨_, _, h⟩ hc
  | failed => exact ⟨⟨_, rfl⟩, rfl⟩
  | supervised => exact absurd trivial hc

theorem settled_of_outcome {op : JournalOp} {x : JournalAnswer} {w : CustodyWorld ι}
    {s : CustodySnapshot} (hs : readJournal E w.journal = .ok s) (hout : w.journal.outcome ≠ [])
    (hop : op.retained ≠ none) (h : op.transact E w.journal = .ok (x, w.journal)) :
    Settled E op x w := by
  refine ⟨h, fun op' i r w' hop' hne hcall => hcall.fails ?_⟩
  rintro ⟨x', j', h'⟩
  exact hne (transact_other hs hout hop' hop h' h)

theorem InCustody.laws {w : CustodyWorld ι} (hw : InCustody E w) : CustodyLaws E w := by
  obtain ⟨s, hs⟩ := hw.reads
  have hsnap := readJournal_snapped hs
  refine {
    reads := ⟨s, hs⟩
    debited_once := hw.answers.trans hsnap.debits
    outcome_once := ?_
    outcome_debited := ?_
    stored_after_debit := ?_
    moves := ?_
    kept := fun w' hrun hout => by rw [hw.frozen hout hrun]
    settled := ?_ }
  · rcases hsnap.outcome with ⟨hnil, -⟩ | ⟨row, -, hrow, -⟩
    · simp [hnil]
    · simp [hrow]
  · intro hout
    rcases hsnap.outcome with ⟨hnil, -⟩ | ⟨_, _, -, -, hdebit, -⟩
    · exact absurd hnil hout
    · exact hdebit
  · intro i σ c y w' hcall hne
    obtain ⟨e, -, ⟨hsame, -⟩ | ⟨op, x, reply, -, hop⟩⟩ := hcall.cases
    · exact absurd (by rw [hsame]) hne
    · have htransacted := transact_ok hs hop
      refine ⟨fun hnil => hne (htransacted.rows.2 hnil), ?_⟩
      by_contra hout
      exact hne (by rw [htransacted.frozen hout])
  · intro i σ c y w' s₀ s' hcall hs₀ hs'
    obtain ⟨e, -, ⟨hsame, -⟩ | ⟨op, x, reply, -, hop⟩⟩ := hcall.cases
    · rw [hsame] at hs'
      obtain rfl : s₀ = s' := Except.ok.inj (hs₀.symm.trans hs')
      exact .stays
    · exact (transact_ok hs₀ hop).moves hs₀ hs'
  · intro op i r w₁ x w₂ hop hcall htransact hrun
    have hw₁ := hw.step hcall
    have hout := (transact_ok hs htransact).outcome hop
    have hsame := hw₁.frozen hout hrun
    obtain ⟨s₂, hs₂⟩ := (hw₁.run hrun).reads
    refine settled_of_outcome hs₂ (by rwa [hsame]) hop ?_
    rw [hsame]
    exact transact_again hop hs htransact

/-- Whatever processes do to a created journal, in any order and with any commit or
acknowledgement lost, one debit is answered, one outcome is kept, and the captures among them
start one worker. -/
theorem acquisition_custody [DecidableEq ι] {wire request : ByteArray} {j : Journal}
    (hcreate : createJournal E wire request = .ok j) :
    (∀ w : CustodyWorld ι, Interferes (Custody E) ⟨j, []⟩ w → CustodyLaws E w) ∧
    ∀ P Q : Pool ι (CustodyWorld ι) CaptureCall String JournalAnswer, P.state = ⟨j, []⟩ →
      (∀ i, (∃ preflight, P.thread i = captureObserved preflight) ∨
        (P.thread i).Calls NoWorker) →
      Pool.Run (Custody E) P Q → (Q.state.log.filterMap dispatcher).length ≤ 1 := by
  have hstart : InCustody E (⟨j, []⟩ : CustodyWorld ι) := createJournal_inCustody hcreate
  refine ⟨fun w hrun => (hstart.run hrun).laws, fun P Q hstate hthreads hrun => ?_⟩
  have hsolvent : Solvent P := by
    intro i
    refine ⟨0, ?_, by simp [hstate]⟩
    rcases hthreads i with ⟨preflight, hthread⟩ | hcalls
    · rw [hthread]
      exact captureObserved_budgeted preflight
    · exact budgeted_of_calls hcalls 0
  have hend : InCustody E Q.state := (hstate.symm ▸ hstart).run hrun.interferes
  exact ((hsolvent.run hrun).dispatches).trans hend.laws.debited_once

/-- The hashes of a request of two bytes, of the identity of its intent and of its attempt. -/
def sampleCustodyEnv : CustodyEnv where
  nfc := fun _ => true
  sha256 := fun data =>
    if data.size = 2 then
      0x4bc9bb6f42a64afb3f1f60bba09bb190c3890b3e6e737c37d4c5458be736971f
    else if data.size = 477 then
      0x413a6bf142a146bdbe63aff3b194de117b76922e02a68da0df15e103e7738309
    else
      0x2d184f33fb7b7cfda3cf313d5479ae27fda52fe0baf6ae204eeb7bb33031e997
  urlsplitAccepts := fun text => text = "https://tsa.invalid/tsr"

def sampleCustodyRequest : ByteArray := [48, 3].toByteArray

/-- The intent of the sample request, with its members in order. -/
def sampleIntent : Fields :=
  [("endpoint", .str "https://tsa.invalid/tsr"),
    ("request_sha256", .str "4bc9bb6f42a64afb3f1f60bba09bb190c3890b3e6e737c37d4c5458be736971f"),
    ("request_size", .int 2), ("response_limit_bytes", .int 64),
    ("schema", .str "etzio.acquisition-custody.intent.v1"),
    ("scope_reference_id",
      .str "sha256:abababababababababababababababababababababababababababababababab"),
    ("service_id", .str "tsa.fixture"),
    ("terms_reference_id",
      .str "sha256:abababababababababababababababababababababababababababababababab")]

theorem normalized_sampleIntent :
    normalized sampleCustodyEnv.nfc (.obj sampleIntent) = .ok (.obj sampleIntent) := by
  have hsorted : sortMembers sampleIntent = sampleIntent := by
    simp [sampleIntent, sortMembers]
  have hnormal := @normalized_scalars sampleCustodyEnv.nfc sampleIntent
    (by unfold ValidKey ValidString; decide +kernel) (by decide +kernel) (by
      intro m hm
      simp only [sampleIntent, List.mem_cons, List.not_mem_nil, or_false] at hm
      rcases hm with rfl | rfl | rfl | rfl | rfl | rfl | rfl | rfl
      all_goals first
        | exact .str (validString_of_ascii (by decide +kernel) (by decide +kernel))
        | exact .int (by decide) (by decide)) (by decide +kernel)
  rwa [hsorted] at hnormal

theorem size_sampleIntent : (encoded (.obj sampleIntent)).size = 429 := by
  rw [size_encoded]
  decide +kernel

theorem intentOf_sampleIntent :
    intentOf sampleCustodyEnv (encoded (.obj sampleIntent)) = .ok sampleIntent := by
  have hsize := size_sampleIntent
  rw [intentOf, bind_of_ok (decodeRecord_encoded normalized_sampleIntent (by simp [hsize])
      (by simp [hsize, maxRecord]) (by decide +kernel) (by decide +kernel)),
    refuseIf_bind_of_not (by decide +kernel), refuseIf_bind_of_not (by decide +kernel),
    refuseIf_bind_of_not (by decide +kernel), refuseIf_bind_of_not (by decide +kernel),
    refuseIf_bind_of_not (by decide +kernel), refuseIf_bind_of_not (by decide +kernel),
    refuseIf_bind_of_not (by decide +kernel)]
  rfl

def samplePreflight : Preflight where
  checks := .ok ()
  packet := fun s => .ok (s.requestWire, 64, 1000)

/-- Every process captures under one intent, and one of them retains the response. -/
theorem acquisition_custody_sample : ∃ wire j, ∃ P Q : Pool ℕ (CustodyWorld ℕ) CaptureCall String
      JournalAnswer, createJournal sampleCustodyEnv wire sampleCustodyRequest = .ok j ∧
    P.state = ⟨j, []⟩ ∧ (∀ i, P.thread i = captureObserved samplePreflight) ∧
    Pool.Run (Custody sampleCustodyEnv) P Q ∧ Q.state.journal.outcome ≠ [] ∧
    Q.state.log.filterMap debtor = [0] ∧ Q.state.log.filterMap dispatcher = [0] ∧
    CustodyLaws sampleCustodyEnv Q.state ∧ (Q.state.log.filterMap dispatcher).length ≤ 1 := by
  obtain ⟨j, hcreate⟩ := createJournal_ok intentOf_sampleIntent
    (by decide +kernel : 0 < sampleCustodyRequest.size) (by decide +kernel) (by decide +kernel)
  obtain ⟨s, hs, hstatus, hwire⟩ := createJournal_prepared hcreate
  have hresponse : (JournalOp.retainResponse [48].toByteArray).Admissible
      (responseLimit sampleIntent) := by
    unfold JournalOp.Admissible
    decide +kernel
  obtain ⟨x, w, hends, houtcome, hdebtor, hdispatcher⟩ :=
    @captureObserved_retains sampleCustodyEnv ℕ 0 samplePreflight ⟨j, []⟩ _ _ _ _ _ _ hs hstatus
      (hwire.symm ▸ intentOf_sampleIntent) rfl rfl hresponse
  have hpool : ∃ rest, Pool.Run (Custody sampleCustodyEnv)
      ⟨⟨j, []⟩, fun _ : ℕ => captureObserved samplePreflight⟩ ⟨w, rest⟩ := hends.visits.pool rfl
  obtain ⟨rest, hrun⟩ := hpool
  obtain ⟨hlaws, hdispatches⟩ := @acquisition_custody _ ℕ _ _ _ _ hcreate
  exact ⟨_, j, _, _, hcreate, rfl, fun i => rfl, hrun, houtcome, hdebtor, hdispatcher,
    hlaws w hrun.interferes, hdispatches _ _ rfl (fun i => .inl ⟨_, rfl⟩) hrun⟩

end Laws

end Etzio
