import Etzio.Base64
import Etzio.Envelopes

/-!
# Wire records

What the decoders of retained records share : the classes of their errors, the patterns of their
texts, the readers of a field, exact keys, relative paths, canonical signatures and content
identities. Values have decidable equality (`sameJson_iff`), and a record of exact keys is
determined by the values under them (`HasKeys.keys`, `record_eq`).

SHA-256, NFC, the admissibility of a public key and the verification of a signature are given by
`WireEnv`.
-/

open CheckedRun JsonText

namespace Etzio

/-! ## Patterns -/

/-- `_IDENTITY`. -/
def isAdapterIdentity (text : String) : Bool :=
  match text.toList with
  | [] => false
  | c :: rest =>
    (('A' ≤ c ∧ c ≤ 'Z') || ('a' ≤ c ∧ c ≤ 'z')) && 1 ≤ rest.length && rest.length ≤ 127 &&
      rest.all fun d => ('A' ≤ d ∧ d ≤ 'Z') || ('a' ≤ d ∧ d ≤ 'z') || ('0' ≤ d ∧ d ≤ '9') ||
        d ∈ ['_', '.', ':', '-']

/-- `_KEY_ID`. -/
def isKeyId (text : String) : Bool :=
  "ed25519:".toList.isPrefixOf text.toList && isContentId (String.ofList (text.toList.drop 8))

/-- The Base64 text of some bytes. -/
def base64Text (bytes : List UInt8) : String := String.ofList (Base64.encode bytes)

/-! ## Lists -/

theorem members?_obj (body : List (String × Json)) : members? (.obj body) = some body := rfl

/-- The value of a list of one. -/
def singleton? {α : Type} : List α → Option α
  | [a] => some a
  | _ => none

/-- Two lists in strict order with the same members are equal. -/
theorem eq_of_strictly_sorted {xs ys : List String} (hxs : xs.Pairwise (· < ·))
    (hys : ys.Pairwise (· < ·)) (hmem : ∀ x, x ∈ xs ↔ x ∈ ys) : xs = ys := by
  have hnodup : ∀ {zs : List String}, zs.Pairwise (· < ·) → zs.Nodup := fun h =>
    h.imp fun hlt => ne_of_lt hlt
  have hasymm : ∀ a b, a ∈ xs → b ∈ ys → a < b → b < a → a = b := by
    intro a b _ _ hab hba
    exact absurd hba (lt_asymm hab)
  exact List.Perm.eq_of_pairwise hasymm hxs hys
    ((List.perm_ext_iff_of_nodup (hnodup hxs) (hnodup hys)).mpr hmem)

namespace Wire

/-! ## Texts -/

/-- The characters that `str.strip` removes. -/
def isSpace (c : Char) : Bool :=
  (0x09 ≤ c.toNat && c.toNat ≤ 0x0d) || (0x1c ≤ c.toNat && c.toNat ≤ 0x20) ||
    (0x2000 ≤ c.toNat && c.toNat ≤ 0x200a) ||
    c.toNat ∈ [0x85, 0xa0, 0x1680, 0x2028, 0x2029, 0x202f, 0x205f, 0x3000]

/-- `str.strip`. -/
def strip (text : String) : String :=
  String.ofList (((text.toList.dropWhile isSpace).reverse.dropWhile isSpace).reverse)

/-- A text that is not empty and has no edge whitespace. -/
def isNonblank (text : String) : Bool := text ≠ "" && text = strip text

/-- `_NONCE` : 128 bits of lowercase hexadecimal. -/
def isNonce (text : String) : Bool :=
  text.toList.length = 32 && text.toList.all fun c => ('0' ≤ c ∧ c ≤ '9') || ('a' ≤ c ∧ c ≤ 'f')

/-- The parts of a `PurePosixPath` below its root. -/
def pathParts (text : String) : List String :=
  ((text.toList.splitOn '/').map String.ofList).filter fun part => part ≠ "" && part ≠ "."

/-- `as_posix` of a path without a root. -/
def asPosix (text : String) : String :=
  if pathParts text = [] then "." else "/".intercalate (pathParts text)

/-- `is_absolute`. -/
def isAbsolute (text : String) : Bool := text.toList.head? = some '/'

/-- A normalized relative path. A part `.` is no part of a path, and a path that has one is not
its own posix text. -/
def isRelativePath (text : String) : Bool :=
  text ≠ "." && !isAbsolute text && asPosix text = text && ".." ∉ pathParts text &&
    '\\' ∉ text.toList && '\x00' ∉ text.toList

/-- `sorted` of texts. -/
def sortedTexts (texts : List String) : List String := texts.insertionSort (· ≤ ·)

/-- `sorted(set(texts))`. -/
def sortedSet (texts : List String) : List String := sortedTexts texts.dedup

/-! ## Errors -/

/-- The errors of a decoder, by their classes. -/
inductive WireError
  | protocol (message : String)
  | event (message : String)
  | mission (message : String)
  | evidence (message : String)
  | artifact (reasonCode message : String)
  | authority (reasonCode message : String)
  | verification (reasonCode message : String)
  | typeError (message : String)
  deriving DecidableEq, Repr

/-- `str(exc)`. -/
def WireError.text : WireError → String
  | .protocol message | .event message | .mission message | .evidence message
  | .artifact _ message | .authority _ message | .verification _ message
  | .typeError message => message

/-- The subclasses of `ProtocolError`. -/
def WireError.isProtocol : WireError → Bool
  | .protocol _ | .event _ | .mission _ | .artifact _ _ => true
  | _ => false

def WireError.isEvent : WireError → Bool
  | .event _ => true
  | _ => false

def WireError.isMission : WireError → Bool
  | .mission _ => true
  | _ => false

def WireError.isEvidence : WireError → Bool
  | .evidence _ => true
  | _ => false

def WireError.isArtifact : WireError → Bool
  | .artifact _ _ => true
  | _ => false

def WireError.isAuthority : WireError → Bool
  | .authority _ _ => true
  | _ => false

def WireError.isVerification : WireError → Bool
  | .verification _ _ => true
  | _ => false

/-- The subclasses of `ValueError`. -/
def WireError.isValueError : WireError → Bool
  | .typeError _ => false
  | _ => true

/-- `except` of some classes, which renames their errors. -/
def catching {α : Type} (caught : WireError → Bool) (rename : WireError → WireError)
    (x : Except WireError α) : Except WireError α :=
  x.mapError fun exc => if caught exc then rename exc else exc

/-- A computation of the protocol module. -/
def protocol {α : Type} (x : Except String α) : Except WireError α := x.mapError .protocol

/-! ## Values -/

mutual

/-- Equality of values, member by member. -/
def sameJson : Json → Json → Bool
  | .null, .null => true
  | .bool a, .bool b => a = b
  | .int a, .int b => a = b
  | .str a, .str b => a = b
  | .arr xs, .arr ys => sameItems xs ys
  | .obj xs, .obj ys => sameMembers xs ys
  | _, _ => false

def sameItems : List Json → List Json → Bool
  | [], [] => true
  | x :: xs, y :: ys => sameJson x y && sameItems xs ys
  | _, _ => false

def sameMembers : List (String × Json) → List (String × Json) → Bool
  | [], [] => true
  | (key, x) :: xs, (key', y) :: ys => key = key' && sameJson x y && sameMembers xs ys
  | _, _ => false

end

theorem sameItems_iff {xs : List Json} (h : ∀ x ∈ xs, ∀ y, sameJson x y = true ↔ x = y)
    (ys : List Json) : sameItems xs ys = true ↔ xs = ys := by
  induction xs generalizing ys with
  | nil => cases ys <;> simp [sameItems]
  | cons x xs ih =>
    cases ys with
    | nil => simp [sameItems]
    | cons y ys =>
      rw [sameItems, Bool.and_eq_true, h x List.mem_cons_self,
        ih (fun z hz => h z (List.mem_cons_of_mem x hz)), List.cons.injEq]

theorem sameMembers_iff {xs : List (String × Json)}
    (h : ∀ x ∈ xs, ∀ y, sameJson x.2 y = true ↔ x.2 = y) (ys : List (String × Json)) :
    sameMembers xs ys = true ↔ xs = ys := by
  induction xs generalizing ys with
  | nil => cases ys <;> simp [sameMembers]
  | cons x xs ih =>
    obtain ⟨key, x⟩ := x
    cases ys with
    | nil => simp [sameMembers]
    | cons y ys =>
      obtain ⟨key', y⟩ := y
      have hx := h (key, x) List.mem_cons_self
      simp only at hx
      rw [sameMembers, Bool.and_eq_true, Bool.and_eq_true, decide_eq_true_eq, hx,
        ih (fun z hz => h z (List.mem_cons_of_mem _ hz)), List.cons.injEq, Prod.mk.injEq]

/-- The equality of values decides equality. -/
theorem sameJson_iff (v w : Json) : sameJson v w = true ↔ v = w := by
  induction v using Json.nested generalizing w with
  | null => cases w <;> simp [sameJson]
  | bool b => cases w <;> simp [sameJson]
  | int n => cases w <;> simp [sameJson]
  | str s => cases w <;> simp [sameJson]
  | arr items ih =>
    cases w with
    | arr items' => simpa [sameJson] using sameItems_iff ih items'
    | _ => simp [sameJson]
  | obj members ih =>
    cases w with
    | obj members' => simpa [sameJson] using sameMembers_iff ih members'
    | _ => simp [sameJson]

instance (v w : Json) : Decidable (v = w) := decidable_of_iff _ (sameJson_iff v w)

/-- The members of a decoded object. -/
abbrev Members : Type := List (String × Json)

/-- `set(body) == fields`. -/
def HasKeys (body : Members) (fields : List String) : Prop :=
  (∀ key ∈ body.map Prod.fst, key ∈ fields) ∧ ∀ key ∈ fields, key ∈ body.map Prod.fst

instance (body : Members) (fields : List String) : Decidable (HasKeys body fields) :=
  inferInstanceAs (Decidable (_ ∧ _))

/-- `body[key]`. -/
def Members.item (body : Members) (key : String) : Except WireError Json :=
  orRefuse (body.lookup key) (.typeError key)

/-- A text of a pattern. -/
def textOf (value : Json) (pattern : String → Bool) (error : WireError) :
    Except WireError String := do
  let text ← orRefuse (str? value) error
  refuseIf (pattern text = false) error
  return text

/-- A nonnegative integer up to a bound, if there is one. -/
def natOf (value : Json) (upper : Option ℕ) (error : WireError) : Except WireError ℕ := do
  let n ← orRefuse (int? value) error
  refuseIf (n < 0 ∨ ∃ bound ∈ upper, (bound : ℤ) < n) error
  return n.toNat

/-- An array. -/
def arrayOf (value : Json) (error : WireError) : Except WireError (List Json) :=
  orRefuse (items? value) error

/-- An object of exact keys. -/
def recordOf (value : Json) (fields : List String) (error : WireError) :
    Except WireError Members := do
  let body ← orRefuse (members? value) error
  refuseIf (¬HasKeys body fields) error
  return body

/-- The texts of an array, all of a pattern. -/
def textsOf (values : List Json) (pattern : String → Bool) (error : WireError) :
    Except WireError (List String) :=
  values.mapM fun value => textOf value pattern error

/-- `value in names` for a set of names : an array or an object cannot be hashed. -/
def inSet (value : Json) (names : List String) : Except WireError Bool :=
  match value with
  | .arr _ => .error (.typeError "unhashable type: 'list'")
  | .obj _ => .error (.typeError "unhashable type: 'dict'")
  | value => .ok (decide (∃ name ∈ names, value = .str name))

/-- The text of names in an error. -/
def listText (names : List String) : String :=
  "[" ++ ", ".intercalate (names.map fun name => "'" ++ name ++ "'") ++ "]"

theorem isOk_iff {α : Type} {x : Except WireError α} : x.isOk = true ↔ ∃ a, x = .ok a := by
  cases x <;> simp [Except.isOk, Except.toBool]

theorem textOf_eq_ok {value : Json} {pattern : String → Bool} {error : WireError}
    {text : String} :
    textOf value pattern error = .ok text ↔ value = .str text ∧ pattern text = true := by
  cases value with
  | str s =>
    rw [textOf, str?, orRefuse_some_bind, unit_bind_eq_ok, refuseIf_eq_ok, Bool.not_eq_false]
    simp only [pure, Except.pure, Except.ok.injEq, Json.str.injEq]
    constructor
    · rintro ⟨hs, rfl⟩
      exact ⟨rfl, hs⟩
    · rintro ⟨rfl, hs⟩
      exact ⟨hs, rfl⟩
  | _ => simp [textOf, str?, orRefuse, bind, Except.bind]

/-! ## The environment -/

/-- What a decoder takes from Unicode, SHA-256 and Ed25519. -/
structure WireEnv where
  nfc : String → Bool
  sha256 : ByteArray → BitVec 256
  /-- `is_valid_ed25519_public_key` of 32 bytes. -/
  validKey : List UInt8 → Bool
  /-- Verification under a public key of a signature of some bytes. -/
  verifies : List UInt8 → List UInt8 → List UInt8 → Bool

variable (E : WireEnv)

/-- `EnvelopeV1.create` without attestations. -/
def WireEnv.create (kind : String) (body : Json) : Except WireError EnvelopeV1 :=
  protocol (EnvelopeV1.create E.nfc E.sha256 kind body (.arr []))

/-- `EnvelopeV1.from_bytes`. -/
def WireEnv.fromBytes (data : ByteArray) : Except WireError EnvelopeV1 :=
  protocol (EnvelopeV1.fromBytes E.nfc E.sha256 data)

/-- `envelope.to_bytes()`. -/
def WireEnv.toBytes (envelope : EnvelopeV1) : Except WireError ByteArray :=
  protocol (envelope.toBytes E.nfc)

/-- `canonical_dumps`. -/
def WireEnv.dumps (value : Json) : Except WireError ByteArray :=
  protocol (canonicalDumps E.nfc value)

/-- `strict_loads`. -/
def WireEnv.loads (data : ByteArray) : Except WireError Json := protocol (strictLoads E.nfc data)

/-- `content_id`. -/
def WireEnv.contentId (kind : String) (value : Json) : Except WireError String :=
  protocol (Etzio.contentId E.nfc E.sha256 kind value)

/-- `thaw_json(envelope.body)`. -/
def WireEnv.thawBody (envelope : EnvelopeV1) : Except WireError Json :=
  protocol (normalized E.nfc (.obj envelope.body))

/-- `authority_key_id` and `verifier_key_id` of 32 bytes. -/
def WireEnv.keyId (publicKey : List UInt8) : String :=
  "ed25519:" ++ contentIdText (E.sha256 publicKey.toByteArray)

/-- The refusal to make a value that the protocol cannot represent. -/
def refused (error : WireError) (x : Except WireError EnvelopeV1) : Except WireError EnvelopeV1 :=
  catching WireError.isProtocol (fun _ => error) x

/-- A text of 88 characters that is the Base64 of 64 bytes. -/
def signatureOf (value : Json) (error : WireError) : Except WireError String := do
  let text ← orRefuse (str? value) error
  refuseIf (text.length ≠ 88) error
  let signature ← orRefuse (Base64.decode text.toList) error
  refuseIf (signature.length ≠ 64 ∨ base64Text signature ≠ text) error
  return text

/-! ### Computations of the protocol module -/

section Protocol

variable {E}

@[simp] theorem catching_eq_ok {α : Type} {caught : WireError → Bool}
    {rename : WireError → WireError} {x : Except WireError α} {a : α} :
    catching caught rename x = .ok a ↔ x = .ok a := by
  rw [catching, mapError_eq_ok]

@[simp] theorem protocol_eq_ok {α : Type} {x : Except String α} {a : α} :
    protocol x = .ok a ↔ x = .ok a := by
  rw [protocol, mapError_eq_ok]

theorem WireEnv.create_eq_ok {kind : String} {body : Json} {e : EnvelopeV1} :
    E.create kind body = .ok e ↔
      EnvelopeV1.create E.nfc E.sha256 kind body (.arr []) = .ok e := by
  rw [WireEnv.create, protocol_eq_ok]

theorem WireEnv.fromBytes_eq_ok {data : ByteArray} {e : EnvelopeV1} :
    E.fromBytes data = .ok e ↔ EnvelopeV1.fromBytes E.nfc E.sha256 data = .ok e := by
  rw [WireEnv.fromBytes, protocol_eq_ok]

theorem WireEnv.toBytes_eq_ok {e : EnvelopeV1} {data : ByteArray} :
    E.toBytes e = .ok data ↔ e.toBytes E.nfc = .ok data := by
  rw [WireEnv.toBytes, protocol_eq_ok]

theorem WireEnv.dumps_eq_ok {value : Json} {data : ByteArray} :
    E.dumps value = .ok data ↔ canonicalDumps E.nfc value = .ok data := by
  rw [WireEnv.dumps, protocol_eq_ok]

theorem WireEnv.loads_eq_ok {data : ByteArray} {value : Json} :
    E.loads data = .ok value ↔ strictLoads E.nfc data = .ok value := by
  rw [WireEnv.loads, protocol_eq_ok]

theorem WireEnv.contentId_eq_ok {kind : String} {value : Json} {id : String} :
    E.contentId kind value = .ok id ↔ Etzio.contentId E.nfc E.sha256 kind value = .ok id := by
  rw [WireEnv.contentId, protocol_eq_ok]

theorem WireEnv.thawBody_eq_ok {e : EnvelopeV1} {value : Json} :
    E.thawBody e = .ok value ↔ normalized E.nfc (.obj e.body) = .ok value := by
  rw [WireEnv.thawBody, protocol_eq_ok]

end Protocol

/-! ## Records of exact keys -/

/-- A record of exact keys has them in their order. -/
theorem HasKeys.keys {body : Members} {fields : List String} (h : HasKeys body fields)
    (hsorted : body.Pairwise fun a b => a.1 < b.1) (hfields : fields.Pairwise (· < ·)) :
    body.map Prod.fst = fields :=
  eq_of_strictly_sorted (List.pairwise_map.mpr hsorted) hfields fun key => ⟨h.1 key, h.2 key⟩

/-- A record is determined by its keys and the values under them. -/
theorem record_eq {body : Members} (hnodup : (body.map Prod.fst).Nodup) :
    body = (body.map Prod.fst).map fun key => (key, (body.lookup key).getD .null) := by
  induction body with
  | nil => rfl
  | cons member body ih =>
    obtain ⟨key, value⟩ := member
    rw [List.map_cons, List.nodup_cons] at hnodup
    have hrest : ∀ k ∈ body.map Prod.fst,
        (k, (((key, value) :: body).lookup k).getD .null) = (k, (body.lookup k).getD .null) := by
      intro k hk
      have hne : (k == key) = false := beq_eq_false_iff_ne.mpr fun h => hnodup.1 (h ▸ hk)
      rw [List.lookup_cons, hne]
    rw [List.map_cons, List.map_cons, List.map_congr_left hrest, ← ih hnodup.2]
    simp

end Wire

end Etzio
