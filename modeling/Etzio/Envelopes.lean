import Etzio.CanonicalJson

/-!
# Envelopes

`EnvelopeV1` and the content identity it carries. An envelope that `create` returns reads
back from its bytes as itself, `from_bytes` accepts no other bytes of it, and the preimages
of two content identities are equal only for equal kinds and normalized values
(`envelope_codec`).

SHA-256 is the function `sha256` of the preimage.
-/

open CheckedRun JsonText

namespace Etzio

variable (nfc : String → Bool) (sha256 : ByteArray → BitVec 256)

/-! ## Content identities -/

/-- `SUPPORTED_OBJECT_KINDS`. -/
def supportedObjectKinds : List String :=
  ["analysis_lease", "authority_admission", "authority_grant", "candidate", "event",
    "head_checkpoint", "integrity_decision", "target_snapshot",
    "verification_artifact_resolution", "verification_lease", "verifier_receipt"]

/-- `_validate_kind`. -/
def validateKind (kind : String) (supportedOnly : Bool) : Except String String := do
  refuseIf (isSnakeCase kind = false) "object kind must be an ASCII snake_case string"
  refuseIf (supportedOnly = true ∧ kind ∉ supportedObjectKinds)
    ("unsupported protocol-v1 object kind '" ++ kind ++ "'")
  return kind

/-- The bytes of an ASCII text. -/
def asciiBytes (text : String) : List UInt8 := text.toList.map fun c => UInt8.ofNat c.toNat

/-- `_CONTENT_DOMAIN`. -/
def contentDomain : List UInt8 := asciiBytes "etzio.protocol.v1" ++ [0]

/-- The bytes that `content_id` hashes. -/
def contentPreimage (kind : String) (value : Json) : Except String ByteArray := do
  let kind ← validateKind kind false
  let semantic ← canonicalDumps nfc value
  return (contentDomain ++ asciiBytes kind ++ [0] ++ semantic.data.toList).toByteArray

/-- `hexdigest`. -/
def hexdigest (digest : BitVec 256) : List Char :=
  (List.range 64).map fun i => Nat.digitChar (digest.toNat / 16 ^ (63 - i) % 16)

/-- The text of a content identity. -/
def contentIdText (digest : BitVec 256) : String :=
  "sha256:" ++ String.ofList (hexdigest digest)

/-- `content_id`. -/
def contentId (kind : String) (value : Json) : Except String String := do
  let preimage ← contentPreimage nfc kind value
  return contentIdText (sha256 preimage)

/-- The digest of the text of a content identity. -/
def digestOf (text : String) : BitVec 256 :=
  BitVec.ofNat 256 ((text.toList.drop 7).foldl (fun n c => 16 * n + (hexValue c).getD 0) 0)

/-- `_CONTENT_ID_PATTERN`. -/
def isContentId (text : String) : Bool :=
  "sha256:".toList.isPrefixOf text.toList && text.toList.length = 71 &&
    (text.toList.drop 7).all fun c => ('0' ≤ c ∧ c ≤ '9') || ('a' ≤ c ∧ c ≤ 'f')

/-! ## The envelope -/

def protocolVersion : ℤ := 1

def objectVersion : ℤ := 1

def maxAttestations : ℕ := 16

/-- `EnvelopeV1`. -/
structure EnvelopeV1 where
  protocolVersion : ℤ
  objectKind : String
  objectVersion : ℤ
  objectId : String
  body : List (String × Json)
  attestations : List (List (String × Json))

/-- `EnvelopeV1.to_dict`. -/
def EnvelopeV1.toDict (e : EnvelopeV1) : Except String Json := do
  let body ← normalized nfc (.obj e.body)
  let attestations ← normalized nfc (.arr (e.attestations.map .obj))
  return .obj [("protocol_version", .int e.protocolVersion), ("object_kind", .str e.objectKind),
    ("object_version", .int e.objectVersion), ("object_id", .str e.objectId), ("body", body),
    ("attestations", attestations)]

/-- `EnvelopeV1.to_bytes`. -/
def EnvelopeV1.toBytes (e : EnvelopeV1) : Except String ByteArray := do
  let dict ← e.toDict nfc
  canonicalDumps nfc dict

/-- The members of an object. -/
def members? : Json → Option (List (String × Json))
  | .obj members => some members
  | _ => none

/-- The items of an array. -/
def items? : Json → Option (List Json)
  | .arr items => some items
  | _ => none

/-- The text of a string. -/
def str? : Json → Option String
  | .str text => some text
  | _ => none

/-- The value of an integer. -/
def int? : Json → Option ℤ
  | .int n => some n
  | _ => none

/-- The objects of an array. -/
def attestations? (value : Json) : Option (List (List (String × Json))) := do
  let items ← items? value
  items.mapM members?

/-- `EnvelopeV1.create`. -/
def EnvelopeV1.create (objectKind : String) (body attestations : Json) :
    Except String EnvelopeV1 := do
  let kind ← validateKind objectKind true
  let frozenBody ← normalized nfc body
  let frozenBody ← orRefuse (members? frozenBody) "envelope body must be a JSON object"
  let frozenAttestations ← normalized nfc attestations
  let frozenAttestations ← orRefuse (attestations? frozenAttestations)
    "envelope attestations must be an array of JSON objects"
  refuseIf (frozenAttestations.length > maxAttestations)
    "envelope exceeds the attestation-count ceiling"
  let objectId ← contentId nfc sha256 kind (.obj frozenBody)
  let envelope : EnvelopeV1 :=
    { protocolVersion := Etzio.protocolVersion
      objectKind := kind
      objectVersion := Etzio.objectVersion
      objectId := objectId
      body := frozenBody
      attestations := frozenAttestations }
  let dict ← envelope.toDict nfc
  let _ ← canonicalDumps nfc dict
  return envelope

/-- `ENVELOPE_FIELDS_V1`, in the order of the names. -/
def envelopeFieldsV1 : List String :=
  ["attestations", "body", "object_id", "object_kind", "object_version", "protocol_version"]

/-- A member of a decoded object. -/
def decodedItem (decoded : List (String × Json)) (key : String) : Except String Json :=
  orRefuse (decoded.lookup key) key

/-- `EnvelopeV1.from_bytes`. -/
def EnvelopeV1.fromBytes (data : ByteArray) : Except String EnvelopeV1 := do
  let value ← strictLoads nfc data
  let decoded ← orRefuse (members? value) "protocol envelope must be a JSON object"
  let unknown := (decoded.map Prod.fst).filter fun key => key ∉ envelopeFieldsV1
  let missing := envelopeFieldsV1.filter fun key => key ∉ decoded.map Prod.fst
  refuseIf (unknown ≠ []) ("unknown envelope fields: " ++ ", ".intercalate unknown)
  refuseIf (missing ≠ []) ("missing envelope fields: " ++ ", ".intercalate missing)
  let version ← decodedItem decoded "protocol_version"
  refuseIf (int? version ≠ some Etzio.protocolVersion) "unsupported protocol version"
  let version ← decodedItem decoded "object_version"
  refuseIf (int? version ≠ some Etzio.objectVersion) "unsupported object version"
  let kind ← decodedItem decoded "object_kind"
  let kind ← orRefuse (str? kind) "object kind must be an ASCII snake_case string"
  let kind ← validateKind kind true
  let suppliedId ← decodedItem decoded "object_id"
  let suppliedId ← orRefuse (str? suppliedId) "malformed object_id"
  refuseIf (isContentId suppliedId = false) "malformed object_id"
  let body ← decodedItem decoded "body"
  refuseIf (members? body = none) "envelope body must be a JSON object"
  let attestations ← decodedItem decoded "attestations"
  refuseIf (attestations? attestations = none)
    "envelope attestations must be an array of JSON objects"
  let envelope ← EnvelopeV1.create nfc sha256 kind body attestations
  refuseIf (suppliedId ≠ envelope.objectId)
    "object_id does not match the canonical semantic body"
  let bytes ← envelope.toBytes nfc
  refuseIf (data ≠ bytes) "protocol envelope bytes are not canonical"
  return envelope

/-! ## Preimages -/

theorem isLowerAlnum_ascii {c : Char} (hc : isLowerAlnum c = true) :
    0 < c.toNat ∧ c.toNat < 128 := by
  simp only [isLowerAlnum, Bool.or_eq_true, decide_eq_true_eq] at hc
  rcases hc with ⟨hlow, hhigh⟩ | ⟨hlow, hhigh⟩
  · have h₁ : 97 ≤ c.toNat := hlow
    have h₂ : c.toNat ≤ 122 := hhigh
    omega
  · have h₁ : 48 ≤ c.toNat := hlow
    have h₂ : c.toNat ≤ 57 := hhigh
    omega

theorem isSnakeTail_ascii {cs : List Char} (hcs : isSnakeTail cs = true) :
    ∀ c ∈ cs, 0 < c.toNat ∧ c.toNat < 128 := by
  induction cs using isSnakeTail.induct with
  | case1 => simp
  | case2 => simp [isSnakeTail] at hcs
  | case3 c rest ih =>
    simp only [isSnakeTail, if_true, Bool.and_eq_true] at hcs
    refine List.forall_mem_cons.mpr ⟨by decide, List.forall_mem_cons.mpr ⟨?_, ih hcs.2⟩⟩
    exact isLowerAlnum_ascii hcs.1
  | case4 c rest hne ih =>
    rw [isSnakeTail.eq_def] at hcs
    simp only [hne, if_false, Bool.and_eq_true] at hcs
    exact List.forall_mem_cons.mpr ⟨isLowerAlnum_ascii hcs.1, ih hcs.2⟩

/-- The characters of a kind are ASCII, and none of them is the separator. -/
theorem isSnakeCase_ascii {kind : String} (hkind : isSnakeCase kind = true) :
    ∀ c ∈ kind.toList, 0 < c.toNat ∧ c.toNat < 128 := by
  unfold isSnakeCase at hkind
  split at hkind
  · simp at hkind
  · rename_i c rest heq
    rw [heq]
    simp only [Bool.and_eq_true, decide_eq_true_eq] at hkind
    obtain ⟨⟨hlow, hhigh⟩, hrest⟩ := hkind
    have h₁ : 97 ≤ c.toNat := hlow
    have h₂ : c.toNat ≤ 122 := hhigh
    exact List.forall_mem_cons.mpr ⟨by omega, isSnakeTail_ascii hrest⟩

/-- A separated prefix is determined by the bytes. -/
theorem append_separator_inj {xs ys bs cs : List UInt8} (hxs : (0 : UInt8) ∉ xs)
    (hys : (0 : UInt8) ∉ ys) (heq : xs ++ 0 :: bs = ys ++ 0 :: cs) : xs = ys ∧ bs = cs := by
  induction xs generalizing ys with
  | nil =>
    cases ys with
    | nil => simpa using heq
    | cons y ys =>
      obtain ⟨rfl, -⟩ := List.cons.inj heq
      simp at hys
  | cons x xs ih =>
    cases ys with
    | nil =>
      obtain ⟨rfl, -⟩ := List.cons.inj heq
      simp at hxs
    | cons y ys =>
      obtain ⟨rfl, htail⟩ := List.cons.inj heq
      obtain ⟨rfl, hrest⟩ := ih (fun h => hxs (List.mem_cons_of_mem _ h))
        (fun h => hys (List.mem_cons_of_mem _ h)) htail
      exact ⟨rfl, hrest⟩

/-- ASCII texts are determined by their bytes. -/
theorem asciiBytes_inj {s t : String} (hs : ∀ c ∈ s.toList, 0 < c.toNat ∧ c.toNat < 128)
    (ht : ∀ c ∈ t.toList, 0 < c.toNat ∧ c.toNat < 128) (heq : asciiBytes s = asciiBytes t) :
    s = t := by
  rw [← String.toList_inj]
  unfold asciiBytes at heq
  generalize s.toList = xs at hs heq
  generalize t.toList = ys at ht heq
  induction xs generalizing ys with
  | nil => cases ys <;> simp_all
  | cons x xs ih =>
    cases ys with
    | nil => simp at heq
    | cons y ys =>
      obtain ⟨hx, hxs⟩ := List.forall_mem_cons.mp hs
      obtain ⟨hy, hys⟩ := List.forall_mem_cons.mp ht
      obtain ⟨hxy, htail⟩ := List.cons.inj heq
      have hnat := congrArg UInt8.toNat hxy
      simp only [UInt8.toNat_ofNat'] at hnat
      have hchar : x = y := Char.toNat_inj.mp (by omega)
      rw [hchar, ih hxs _ hys htail]

theorem zero_notMem_asciiBytes {s : String}
    (hs : ∀ c ∈ s.toList, 0 < c.toNat ∧ c.toNat < 128) : (0 : UInt8) ∉ asciiBytes s := by
  intro hmem
  obtain ⟨c, hc, hzero⟩ := List.mem_map.mp hmem
  have hnat := congrArg UInt8.toNat hzero
  simp only [UInt8.toNat_ofNat'] at hnat
  have := hs c hc
  have hzero' : (0 : UInt8).toNat = 0 := rfl
  omega

variable {nfc} {sha256}

theorem validateKind_eq_ok {kind k : String} {supportedOnly : Bool} :
    validateKind kind supportedOnly = .ok k ↔
      k = kind ∧ isSnakeCase kind = true ∧
        (supportedOnly = true → kind ∈ supportedObjectKinds) := by
  simp only [validateKind, unit_bind_eq_ok, refuseIf_eq_ok, Bool.not_eq_false, not_and, not_not,
    pure, Except.pure, Except.ok.injEq]
  tauto

theorem contentPreimage_eq_ok {kind : String} {value : Json} {p : ByteArray} :
    contentPreimage nfc kind value = .ok p ↔
      isSnakeCase kind = true ∧ ∃ b, canonicalDumps nfc value = .ok b ∧
        p = (contentDomain ++ asciiBytes kind ++ [0] ++ b.data.toList).toByteArray := by
  rw [contentPreimage, bind_eq_ok]
  constructor
  · rintro ⟨k, hk, hrest⟩
    obtain ⟨rfl, hsnake, -⟩ := validateKind_eq_ok.mp hk
    obtain ⟨b, hb, hreturn⟩ := bind_eq_ok.mp hrest
    exact ⟨hsnake, b, hb, (Except.ok.inj hreturn).symm⟩
  · rintro ⟨hsnake, b, hb, rfl⟩
    exact ⟨kind, validateKind_eq_ok.mpr ⟨rfl, hsnake, by simp⟩, bind_eq_ok.mpr ⟨b, hb, rfl⟩⟩

/-- Equal preimages come from equal kinds and normalized values. -/
theorem contentPreimage_inj {kind kind' : String} {value value' : Json} {p : ByteArray}
    (h : contentPreimage nfc kind value = .ok p)
    (h' : contentPreimage nfc kind' value' = .ok p) :
    kind = kind' ∧ normalized nfc value = normalized nfc value' := by
  obtain ⟨hsnake, b, hb, hp⟩ := contentPreimage_eq_ok.mp h
  obtain ⟨hsnake', b', hb', rfl⟩ := contentPreimage_eq_ok.mp h'
  have hlist := congrArg (fun x => x.data.toList) hp
  simp only [List.append_assoc, List.data_toByteArray, List.append_cancel_left_eq,
    List.singleton_append] at hlist
  have hascii := isSnakeCase_ascii hsnake
  have hascii' := isSnakeCase_ascii hsnake'
  obtain ⟨hkind, hbytes⟩ := append_separator_inj (zero_notMem_asciiBytes hascii')
    (zero_notMem_asciiBytes hascii) hlist
  obtain rfl : b' = b := ByteArray.ext (Array.toList_inj.mp hbytes)
  obtain ⟨w, hw, hsize, hwb⟩ := canonicalDumps_eq_ok.mp hb
  obtain ⟨w', hw', -, hwb'⟩ := canonicalDumps_eq_ok.mp hb'
  obtain rfl := canonicalDumps_inj hw hw' hb hb'
  exact ⟨(asciiBytes_inj hascii' hascii hkind).symm, hw.trans hw'.symm⟩

/-! ## Created envelopes -/

theorem digitChar_hex : ∀ n < 16, ('0' ≤ Nat.digitChar n ∧ Nat.digitChar n ≤ '9') ∨
    ('a' ≤ Nat.digitChar n ∧ Nat.digitChar n ≤ 'f') := by decide

theorem length_hexdigest (digest : BitVec 256) : (hexdigest digest).length = 64 := by
  simp [hexdigest]

theorem hexdigest_digits (digest : BitVec 256) :
    ∀ c ∈ hexdigest digest, ('0' ≤ c ∧ c ≤ '9') ∨ ('a' ≤ c ∧ c ≤ 'f') := by
  intro c hc
  rw [hexdigest] at hc
  obtain ⟨i, -, rfl⟩ := List.mem_map.mp hc
  exact digitChar_hex _ (Nat.mod_lt _ (by decide))

theorem isContentId_contentIdText (digest : BitVec 256) :
    isContentId (contentIdText digest) = true := by
  have hstart : "sha256:".toList.length = 7 := by rfl
  have hlength := length_hexdigest digest
  have hdigits := hexdigest_digits digest
  unfold isContentId contentIdText
  rw [String.toList_append, @String.toList_ofList (hexdigest digest)]
  generalize hexdigest digest = digits at hlength hdigits ⊢
  generalize "sha256:".toList = start at hstart ⊢
  simp only [Bool.and_eq_true]
  refine ⟨⟨?_, ?_⟩, ?_⟩
  · exact List.isPrefixOf_iff_prefix.mpr (List.prefix_append _ _)
  · simp [hlength, hstart]
  · rw [List.drop_left' hstart, List.all_eq_true]
    intro c hc
    simpa using hdigits c hc

theorem length_contentIdText (d : BitVec 256) : (contentIdText d).length = 71 := by
  unfold contentIdText
  rw [String.length_append, @String.length_ofList (hexdigest _), length_hexdigest]
  rfl

theorem isAscii_contentIdText (d : BitVec 256) : isAscii (contentIdText d) = true := by
  have hhex : ((hexdigest d).all fun c => decide (c.toNat < 128)) = true := by
    rw [List.all_eq_true]
    intro c hc
    have hle : c.toNat < 128 := by
      rcases hexdigest_digits d c hc with ⟨-, h⟩ | ⟨-, h⟩
      · have h' : c.toNat ≤ 57 := h
        omega
      · have h' : c.toNat ≤ 102 := h
        omega
    simpa using hle
  have hstart : ("sha256:".toList.all fun c => decide (c.toNat < 128)) = true := by decide
  unfold isAscii contentIdText
  rw [String.toList_append, List.all_append, hstart, @String.toList_ofList (hexdigest d), hhex]
  rfl

/-- The digest of the text of a digest. -/
theorem digestOf_contentIdText (d : BitVec 256) : digestOf (contentIdText d) = d := by
  have hstart : "sha256:".toList.length = 7 := by rfl
  have hprefix : ∀ k ≤ 64, ((List.range k).map fun i =>
      Nat.digitChar (d.toNat / 16 ^ (63 - i) % 16)).foldl
        (fun n c => 16 * n + (hexValue c).getD 0) 0 = d.toNat / 16 ^ (64 - k) := by
    intro k hk
    induction k with
    | zero => simpa using (Nat.div_eq_of_lt d.isLt).symm
    | succ k ih =>
      have hdigit := hexValue_digitChar (d.toNat / 16 ^ (63 - k) % 16) (Nat.mod_lt _ (by decide))
      have hpow : 16 ^ (64 - k) = 16 ^ (63 - k) * 16 := by
        rw [← pow_succ]
        congr 1
        omega
      rw [List.range_succ, List.map_append, List.foldl_append, ih (by omega), hpow,
        ← Nat.div_div_eq_div_mul]
      simp only [List.map_cons, List.map_nil, List.foldl_cons, List.foldl_nil, hdigit,
        Option.getD_some]
      rw [show 64 - (k + 1) = 63 - k by omega]
      omega
  have hall := hprefix 64 le_rfl
  unfold digestOf contentIdText
  rw [String.toList_append, List.drop_left' hstart, String.toList_ofList, hexdigest, hall]
  simp

/-- Digests of equal texts are equal. -/
theorem contentIdText_inj {d d' : BitVec 256} (h : contentIdText d = contentIdText d') :
    d = d' := by
  rw [← digestOf_contentIdText d, h, digestOf_contentIdText]

/-- The members of an envelope's canonical text. -/
def EnvelopeV1.members (e : EnvelopeV1) : List (String × Json) :=
  [("attestations", .arr (e.attestations.map .obj)), ("body", .obj e.body),
    ("object_id", .str e.objectId), ("object_kind", .str e.objectKind),
    ("object_version", .int e.objectVersion), ("protocol_version", .int e.protocolVersion)]

theorem members?_eq_some {v : Json} {ms : List (String × Json)} :
    members? v = some ms ↔ v = .obj ms := by
  cases v <;> simp [members?]

theorem attestations?_eq_some {v : Json} {as : List (List (String × Json))} :
    attestations? v = some as ↔ v = .arr (as.map .obj) := by
  have hmap : ∀ items : List Json, items.mapM members? = some as ↔ items = as.map .obj := by
    intro items
    induction items generalizing as with
    | nil => cases as <;> simp [pure]
    | cons v items ih =>
      rw [List.mapM_cons]
      cases as with
      | nil => simp [Option.bind_eq_some_iff, pure]
      | cons a as => simp [Option.bind_eq_some_iff, pure, members?_eq_some, ih]
  cases v with
  | arr items => simpa [attestations?, items?] using hmap items
  | _ => simp [attestations?, items?]

/-- What `create` returns : the constants, and normalized parts whose identity is computed
and whose dictionary has canonical bytes. -/
structure EnvelopeV1.Created (nfc : String → Bool) (sha256 : ByteArray → BitVec 256)
    (e : EnvelopeV1) : Prop where
  version : e.protocolVersion = Etzio.protocolVersion ∧ e.objectVersion = Etzio.objectVersion
  kind : validateKind e.objectKind true = .ok e.objectKind
  body : normalized nfc (.obj e.body) = .ok (.obj e.body)
  attestations : normalized nfc (.arr (e.attestations.map .obj)) =
    .ok (.arr (e.attestations.map .obj))
  few : e.attestations.length ≤ maxAttestations
  identity : contentId nfc sha256 e.objectKind (.obj e.body) = .ok e.objectId
  bytes : ∃ b, e.toBytes nfc = .ok b

theorem create_created {kind : String} {body attestations : Json} {e : EnvelopeV1}
    (h : EnvelopeV1.create nfc sha256 kind body attestations = .ok e) :
    e.Created nfc sha256 ∧ e.objectKind = kind ∧ normalized nfc body = .ok (.obj e.body) ∧
      normalized nfc attestations = .ok (.arr (e.attestations.map .obj)) := by
  obtain ⟨k, hk, h₁⟩ := bind_eq_ok.mp h
  obtain ⟨rfl, -, -⟩ := validateKind_eq_ok.mp hk
  obtain ⟨frozen, hfrozen, h₂⟩ := bind_eq_ok.mp h₁
  obtain ⟨ms, hms, h₃⟩ := orRefuse_bind_eq_ok.mp h₂
  obtain rfl := members?_eq_some.mp hms
  obtain ⟨frozenAttestations, hatt, h₄⟩ := bind_eq_ok.mp h₃
  obtain ⟨as, has, h₅⟩ := orRefuse_bind_eq_ok.mp h₄
  obtain rfl := attestations?_eq_some.mp has
  obtain ⟨hfew, h₆⟩ := unit_bind_eq_ok.mp h₅
  obtain ⟨objectId, hid, h₇⟩ := bind_eq_ok.mp h₆
  obtain ⟨dict, hdict, h₈⟩ := bind_eq_ok.mp h₇
  obtain ⟨b, hb, hreturn⟩ := bind_eq_ok.mp h₈
  obtain rfl := Except.ok.inj hreturn
  refine ⟨⟨⟨rfl, rfl⟩, hk, (normalized_spec hfrozen).2.2.2, (normalized_spec hatt).2.2.2,
    by simpa using hfew, hid, b, ?_⟩, rfl, hfrozen, hatt⟩
  rw [EnvelopeV1.toBytes, bind_of_ok hdict]
  exact hb

/-- A created envelope's parts create it again. -/
theorem EnvelopeV1.Created.create {e : EnvelopeV1} (he : e.Created nfc sha256) :
    EnvelopeV1.create nfc sha256 e.objectKind (.obj e.body) (.arr (e.attestations.map .obj)) =
      .ok e := by
  obtain ⟨⟨hprotocol, hobject⟩, hkind, hbody, hatt, hfew, hid, b, hb⟩ := he
  obtain ⟨protocolVersion, objectKind, objectVersion, objectId, body, attestations⟩ := e
  simp only at hprotocol hobject hkind hbody hatt hfew hid hb
  subst hprotocol hobject
  obtain ⟨dict, hdict, hb⟩ := bind_eq_ok.mp hb
  rw [EnvelopeV1.create, bind_of_ok hkind, bind_of_ok hbody]
  refine orRefuse_bind_eq_ok.mpr ⟨body, rfl, ?_⟩
  rw [bind_of_ok hatt]
  refine orRefuse_bind_eq_ok.mpr ⟨attestations, attestations?_eq_some.mpr rfl, ?_⟩
  rw [refuseIf_bind_of_not (not_lt.mpr hfew), bind_of_ok hid]
  simp only
  rw [bind_of_ok hdict, bind_of_ok hb]
  rfl

/-- The bytes of a created envelope are the text of its members. -/
theorem EnvelopeV1.Created.bytes_eq {e : EnvelopeV1} (he : e.Created nfc sha256)
    {b : ByteArray} (hb : e.toBytes nfc = .ok b) :
    b = encoded (.obj e.members) ∧ strictLoads nfc b = .ok (.obj e.members) := by
  obtain ⟨dict, hdict, hb⟩ := bind_eq_ok.mp hb
  obtain ⟨w, hw, hsize, rfl⟩ := canonicalDumps_eq_ok.mp hb
  obtain ⟨-, -, -, hself⟩ := normalized_spec hw
  have hform := normalized_normalForm hw
  have hbody := normalized_normalForm he.body
  have hatt := normalized_normalForm he.attestations
  rw [EnvelopeV1.toDict, bind_of_ok he.body, bind_of_ok he.attestations] at hdict
  obtain rfl := Except.ok.inj hdict
  have hmembers : w = .obj e.members := by
    rw [hform]
    rw [normalForm]
    refine congrArg Json.obj ?_
    simp only [normalFormMembers, setItem, String.reduceEq, if_false, ← hbody, ← hatt]
    simp [sortMembers, normalForm, EnvelopeV1.members]
  subst hmembers
  exact ⟨rfl, strictLoads_encoded hself hsize⟩

/-- A created envelope reads back from its bytes. -/
theorem EnvelopeV1.Created.fromBytes {e : EnvelopeV1} (he : e.Created nfc sha256)
    {b : ByteArray} (hb : e.toBytes nfc = .ok b) :
    EnvelopeV1.fromBytes nfc sha256 b = .ok e := by
  have hload := (he.bytes_eq hb).2
  have hcontent : isContentId e.objectId = true := by
    obtain ⟨p, -, hid⟩ := bind_eq_ok.mp he.identity
    obtain hid := Except.ok.inj hid
    rw [← hid]
    exact isContentId_contentIdText _
  have hversion := he.version
  have hatt : attestations? (.arr (e.attestations.map .obj)) = some e.attestations :=
    attestations?_eq_some.mpr rfl
  rw [EnvelopeV1.fromBytes, bind_of_ok hload]
  refine orRefuse_bind_eq_ok.mpr ⟨e.members, rfl, ?_⟩
  simp only
  rw [refuseIf_bind_of_not (by simp [EnvelopeV1.members, envelopeFieldsV1]),
    refuseIf_bind_of_not (by simp [EnvelopeV1.members, envelopeFieldsV1])]
  refine orRefuse_bind_eq_ok.mpr
    ⟨.int e.protocolVersion, by simp [EnvelopeV1.members, List.lookup], ?_⟩
  rw [refuseIf_bind_of_not (by simp [int?, hversion.1])]
  refine orRefuse_bind_eq_ok.mpr
    ⟨.int e.objectVersion, by simp [EnvelopeV1.members, List.lookup], ?_⟩
  rw [refuseIf_bind_of_not (by simp [int?, hversion.2])]
  refine orRefuse_bind_eq_ok.mpr ⟨.str e.objectKind, by simp [EnvelopeV1.members, List.lookup], ?_⟩
  refine orRefuse_bind_eq_ok.mpr ⟨e.objectKind, rfl, ?_⟩
  rw [bind_of_ok he.kind]
  refine orRefuse_bind_eq_ok.mpr ⟨.str e.objectId, by simp [EnvelopeV1.members, List.lookup], ?_⟩
  refine orRefuse_bind_eq_ok.mpr ⟨e.objectId, rfl, ?_⟩
  rw [refuseIf_bind_of_not (by simp [hcontent])]
  refine orRefuse_bind_eq_ok.mpr ⟨.obj e.body, by simp [EnvelopeV1.members, List.lookup], ?_⟩
  rw [refuseIf_bind_of_not (by simp [members?])]
  refine orRefuse_bind_eq_ok.mpr
    ⟨.arr (e.attestations.map .obj), by simp [EnvelopeV1.members], ?_⟩
  rw [refuseIf_bind_of_not (by simp [hatt]), bind_of_ok he.create,
    refuseIf_bind_of_not (by simp), bind_of_ok hb, refuseIf_bind_of_not (by simp)]
  rfl

/-- What `from_bytes` accepts was created, from the bytes it has. -/
theorem fromBytes_created {b : ByteArray} {e : EnvelopeV1}
    (h : EnvelopeV1.fromBytes nfc sha256 b = .ok e) :
    e.Created nfc sha256 ∧ e.toBytes nfc = .ok b := by
  obtain ⟨value, -, h₁⟩ := bind_eq_ok.mp h
  obtain ⟨decoded, -, h₂⟩ := orRefuse_bind_eq_ok.mp h₁
  obtain ⟨-, h₃⟩ := unit_bind_eq_ok.mp h₂
  obtain ⟨-, h₄⟩ := unit_bind_eq_ok.mp h₃
  obtain ⟨version, -, h₅⟩ := bind_eq_ok.mp h₄
  obtain ⟨-, h₆⟩ := unit_bind_eq_ok.mp h₅
  obtain ⟨version', -, h₇⟩ := bind_eq_ok.mp h₆
  obtain ⟨-, h₈⟩ := unit_bind_eq_ok.mp h₇
  obtain ⟨kindValue, -, h₉⟩ := bind_eq_ok.mp h₈
  obtain ⟨kindText, -, h₁₀⟩ := orRefuse_bind_eq_ok.mp h₉
  obtain ⟨kind, -, h₁₁⟩ := bind_eq_ok.mp h₁₀
  obtain ⟨idValue, -, h₁₂⟩ := bind_eq_ok.mp h₁₁
  obtain ⟨suppliedId, -, h₁₃⟩ := orRefuse_bind_eq_ok.mp h₁₂
  obtain ⟨-, h₁₄⟩ := unit_bind_eq_ok.mp h₁₃
  obtain ⟨body, -, h₁₅⟩ := bind_eq_ok.mp h₁₄
  obtain ⟨-, h₁₆⟩ := unit_bind_eq_ok.mp h₁₅
  obtain ⟨attestations, -, h₁₇⟩ := bind_eq_ok.mp h₁₆
  obtain ⟨-, h₁₈⟩ := unit_bind_eq_ok.mp h₁₇
  obtain ⟨envelope, hcreate, h₁₉⟩ := bind_eq_ok.mp h₁₈
  obtain ⟨-, h₂₀⟩ := unit_bind_eq_ok.mp h₁₉
  obtain ⟨bytes, hbytes, h₂₁⟩ := bind_eq_ok.mp h₂₀
  obtain ⟨hsame, hreturn⟩ := unit_bind_eq_ok.mp h₂₁
  rw [refuseIf_eq_ok, not_not] at hsame
  obtain rfl := Except.ok.inj hreturn
  obtain rfl := hsame
  exact ⟨(create_created hcreate).1, hbytes⟩

/-! ### Representable bodies -/

/-- An envelope without attestations under a digest. -/
def plainEnvelope (kind : String) (d : BitVec 256) (body : List (String × Json)) : EnvelopeV1 :=
  ⟨Etzio.protocolVersion, kind, Etzio.objectVersion, contentIdText d, body, []⟩

/-- A body that the protocol can represent in an envelope : admitted one level down, with a
dictionary of a bounded number of nodes and a bounded text. -/
structure Representable (nfc : String → Bool) (kind : String) (body : List (String × Json)) :
    Prop where
  admitted : Admitted nfc 1 (.obj body)
  few : nodes (.obj body) + 6 ≤ maxTotalNodes
  short : textSize (dumps (.obj (plainEnvelope kind 0 body).members)) ≤ maxWireBytes

/-- The text of a content identity is quoted as it is. -/
theorem textSize_contentIdText (d : BitVec 256) :
    textSize (dumpsString (contentIdText d)) = 73 := by
  rw [textSize_dumpsString_plain, length_contentIdText]
  have hstart : ("sha256:".toList.all fun c =>
      decide (c ≠ '"' ∧ c ≠ '\\' ∧ 32 ≤ c.toNat ∧ c.toNat < 128)) = true := by decide +kernel
  intro c hc
  rw [contentIdText, String.toList_append, @String.toList_ofList (hexdigest d)] at hc
  rcases List.mem_append.mp hc with hc | hc
  · exact of_decide_eq_true (List.all_eq_true.mp hstart c hc)
  · obtain ⟨hlow, hhigh, hquote, hslash⟩ : 48 ≤ c.toNat ∧ c.toNat ≤ 102 ∧ c ≠ '"' ∧ c ≠ '\\' := by
      rcases hexdigest_digits d c hc with ⟨hlow, hhigh⟩ | ⟨hlow, hhigh⟩
      · have hl : 48 ≤ c.toNat := hlow
        have hh : c.toNat ≤ 57 := hhigh
        exact ⟨hl, by omega, by rintro rfl; exact absurd hl (by decide),
          by rintro rfl; exact absurd hh (by decide)⟩
      · have hl : 97 ≤ c.toNat := hlow
        have hh : c.toNat ≤ 102 := hhigh
        exact ⟨by omega, hh, by rintro rfl; exact absurd hl (by decide),
          by rintro rfl; exact absurd hl (by decide)⟩
    exact ⟨hquote, hslash, by omega, by omega⟩

/-- Every digest has a text of one length. -/
theorem textSize_plainEnvelope (kind : String) (d d' : BitVec 256) (body : List (String × Json)) :
    textSize (dumps (.obj (plainEnvelope kind d body).members)) =
      textSize (dumps (.obj (plainEnvelope kind d' body).members)) := by
  have hmember : textSize (dumpsMember ("object_id", .str (contentIdText d))) =
      textSize (dumpsMember ("object_id", .str (contentIdText d'))) := by
    simp only [dumpsMember, dumps, textSize_append, textSize_cons, textSize_contentIdText]
  rw [textSize_dumps_obj, textSize_dumps_obj]
  simp only [textSize_separated, EnvelopeV1.members, plainEnvelope, List.map_cons, hmember]

/-- The dictionary of a created envelope without attestations, in the order of `to_dict`. -/
def plainDict (e : EnvelopeV1) : List (String × Json) :=
  [("protocol_version", .int e.protocolVersion), ("object_kind", .str e.objectKind),
    ("object_version", .int e.objectVersion), ("object_id", .str e.objectId),
    ("body", .obj e.body), ("attestations", .arr [])]

/-- The dictionary of a representable body has canonical bytes. -/
theorem Representable.canonicalDumps {kind : String} {body : List (String × Json)}
    (h : Representable nfc kind body) (hkind : validateKind kind true = .ok kind) (d : BitVec 256) :
    ∃ bytes, canonicalDumps nfc (.obj (plainDict (plainEnvelope kind d body))) = .ok bytes := by
  obtain ⟨-, -, hknown⟩ := validateKind_eq_ok.mp hkind
  have hplain : ∀ k ∈ supportedObjectKinds, isAscii k = true ∧ k.length ≤ 40 := by decide +kernel
  obtain ⟨hascii, hshort⟩ := hplain kind (hknown rfl)
  have hone : minInteger ≤ 1 ∧ 1 ≤ maxInteger := by decide
  have hkeys : ∀ key ∈ ["protocol_version", "object_kind", "object_version", "object_id",
      "body", "attestations"], isAscii key = true ∧ key.length ≤ maxKeyCodepoints ∧
        isSnakeCase key = true := by decide +kernel
  have hnormal : normalized nfc (.obj (plainDict (plainEnvelope kind d body))) =
      .ok (.obj (sortMembers (plainDict (plainEnvelope kind d body)))) := by
    refine normalized_members (fun m hm => ?_) (by simp [plainDict]) ?_
      (by simp [plainDict, maxContainerItems]) ?_
    · obtain ⟨hascii, hlength, hsnake⟩ := hkeys m.1 (List.mem_map_of_mem hm)
      exact ⟨validString_of_ascii hascii (hlength.trans (by decide)), hlength, hsnake⟩
    · simp only [plainDict, List.forall_mem_cons]
      refine ⟨.int (by decide) hone.1 hone.2, .str (by decide) ?_, .int (by decide) hone.1 hone.2,
        .str (by decide) ?_, h.admitted, .arr (by decide) (by simp) (by simp), by simp⟩
      · exact validString_of_ascii hascii (hshort.trans (by decide))
      · refine validString_of_ascii (isAscii_contentIdText d) ?_
        rw [plainEnvelope, length_contentIdText]
        decide
    · have hfew := h.few
      simp only [plainDict, plainEnvelope, nodes, nodesMembers, nodesItems] at hfew ⊢
      omega
  have hsort : sortMembers (plainDict (plainEnvelope kind d body)) =
      (plainEnvelope kind d body).members := by
    simp [sortMembers, plainDict, plainEnvelope, EnvelopeV1.members]
  refine ⟨_, canonicalDumps_eq_ok.mpr ⟨_, hnormal, ?_, rfl⟩⟩
  rw [size_encoded, hsort, textSize_plainEnvelope kind d 0]
  exact h.short

/-- What normalizes to a representable body is created as an envelope without attestations, under
the hash of the body's preimage. -/
theorem Representable.create {kind : String} {v : Json} {body : List (String × Json)}
    (h : Representable nfc kind body) (hkind : validateKind kind true = .ok kind)
    (hv : normalized nfc v = .ok (.obj body)) :
    ∃ p, contentPreimage nfc kind (.obj body) = .ok p ∧
      EnvelopeV1.create nfc sha256 kind v (.arr []) = .ok (plainEnvelope kind (sha256 p) body) := by
  obtain ⟨-, hsnake, -⟩ := validateKind_eq_ok.mp hkind
  have hnormal := (normalized_spec hv).2.2.2
  have hempty : normalized nfc (.arr []) = .ok (.arr []) :=
    normalized_of_admitted (.arr (by decide) (by simp) (by simp)) (by decide)
  have hsize : (encoded (.obj body)).size ≤ maxWireBytes := by
    rw [size_encoded]
    exact (textSize_dumps_member_le (m := ("body", .obj body))
      (by simp [EnvelopeV1.members, plainEnvelope])).trans h.short
  obtain ⟨p, hp⟩ : ∃ p, contentPreimage nfc kind (.obj body) = .ok p :=
    ⟨_, contentPreimage_eq_ok.mpr
      ⟨hsnake, _, canonicalDumps_eq_ok.mpr ⟨_, hnormal, hsize, rfl⟩, rfl⟩⟩
  refine ⟨p, hp, ?_⟩
  obtain ⟨bytes, hbytes⟩ := h.canonicalDumps hkind (sha256 p)
  have hid : contentId nfc sha256 kind (.obj body) = .ok (contentIdText (sha256 p)) := by
    rw [contentId, bind_of_ok hp]
    rfl
  rw [EnvelopeV1.create, bind_of_ok hkind, bind_of_ok hv]
  refine orRefuse_bind_eq_ok.mpr ⟨body, rfl, ?_⟩
  rw [bind_of_ok hempty]
  refine orRefuse_bind_eq_ok.mpr ⟨[], rfl, ?_⟩
  rw [refuseIf_bind_of_not (by decide), bind_of_ok hid]
  simp only [EnvelopeV1.toDict, List.map_nil]
  rw [bind_of_ok hnormal, bind_of_ok hempty]
  exact bind_eq_ok.mpr ⟨_, rfl, bind_eq_ok.mpr ⟨bytes, hbytes, rfl⟩⟩

/-- The body of an envelope that was created without attestations is representable. -/
theorem EnvelopeV1.Created.representable {e : EnvelopeV1} (he : e.Created nfc sha256)
    (hplain : e.attestations = []) : Representable nfc e.objectKind e.body := by
  obtain ⟨b, hb⟩ := he.bytes
  obtain ⟨rfl, hload⟩ := he.bytes_eq hb
  obtain ⟨hself, -, hsize⟩ := strictLoads_spec hload
  obtain ⟨hadmitted, hnodes, -⟩ := normalized_spec hself
  have hid : ∃ d, e.objectId = contentIdText d := by
    obtain ⟨p, -, hid⟩ := bind_eq_ok.mp he.identity
    exact ⟨sha256 p, (Except.ok.inj hid).symm⟩
  obtain ⟨d, hd⟩ := hid
  have hshape : e = plainEnvelope e.objectKind d e.body := by
    obtain ⟨⟨hprotocol, hobject⟩, -⟩ := he
    obtain ⟨protocolVersion, objectKind, objectVersion, objectId, body, attestations⟩ := e
    simp only at hprotocol hobject hplain hd
    rw [hprotocol, hobject, hplain, hd]
    rfl
  refine ⟨?_, ?_, ?_⟩
  · cases hadmitted with
    | obj _ _ _ _ hmembers =>
      exact hmembers ("body", .obj e.body) (by simp [EnvelopeV1.members])
  · rw [hshape] at hnodes
    simp only [EnvelopeV1.members, plainEnvelope, nodes, nodesMembers, nodesItems, List.map_nil]
      at hnodes ⊢
    omega
  · rw [size_encoded, hshape, textSize_plainEnvelope _ d 0] at hsize
    exact hsize

/-- A value is created as an envelope without attestations exactly when its normal form is
representable. -/
theorem create_iff {kind : String} {v : Json} {body : List (String × Json)}
    (hkind : validateKind kind true = .ok kind) (hv : normalized nfc v = .ok (.obj body)) :
    (∃ e, EnvelopeV1.create nfc sha256 kind v (.arr []) = .ok e) ↔ Representable nfc kind body := by
  constructor
  · rintro ⟨e, he⟩
    obtain ⟨hcreated, rfl, hbody, hattestations⟩ := create_created he
    have hempty := normalized_normalForm hattestations
    have hsame : e.body = body := Json.obj.inj (Except.ok.inj (hbody.symm.trans hv))
    rw [← hsame]
    refine hcreated.representable ?_
    simpa [normalForm, normalFormItems] using hempty
  · intro h
    obtain ⟨p, -, hcreate⟩ := h.create hkind hv
    exact ⟨_, hcreate⟩

/-- An admitted body of bounded weight is representable. -/
theorem representable_of_weight {kind : String} {body : List (String × Json)}
    (hkind : validateKind kind true = .ok kind) (hbody : Admitted nfc 1 (.obj body))
    (hnodes : nodes (.obj body) + 6 ≤ maxTotalNodes)
    (hweight : weight (.obj body) + 2000 ≤ maxWireBytes) : Representable nfc kind body := by
  refine ⟨hbody, hnodes, (textSize_dumps_le _).trans ?_⟩
  obtain ⟨-, -, hknown⟩ := validateKind_eq_ok.mp hkind
  have hkinds : ∀ k ∈ supportedObjectKinds, k.length ≤ 40 := by decide +kernel
  have hshort := hkinds kind (hknown rfl)
  have hdigits : textSize (dumpsInt 1) = 1 := by decide +kernel
  have hid := length_contentIdText 0
  have hkeys : (["protocol_version", "object_kind", "object_version", "object_id", "body",
      "attestations"].map String.length).sum = 66 := by decide +kernel
  simp only [List.map_cons, List.map_nil, List.sum_cons, List.sum_nil] at hkeys
  simp only [EnvelopeV1.members, plainEnvelope, weight, weightMembers, weightItems,
    protocolVersion, objectVersion, hdigits, hid, List.map_nil] at hweight ⊢
  generalize "protocol_version".length = a, "object_kind".length = b, "object_version".length = c,
    "object_id".length = d, "body".length = e, "attestations".length = f at hkeys ⊢
  omega

/-- The envelope codec : a created envelope reads back from its bytes, an accepted byte string
is the text of the envelope it is read as, and equal preimages of content identities come from
equal kinds and normalized values. -/
theorem envelope_codec (nfc : String → Bool) (sha256 : ByteArray → BitVec 256) :
    (∀ kind body attestations e,
      EnvelopeV1.create nfc sha256 kind body attestations = .ok e →
      ∃ b, e.toBytes nfc = .ok b ∧ EnvelopeV1.fromBytes nfc sha256 b = .ok e) ∧
    (∀ b e, EnvelopeV1.fromBytes nfc sha256 b = .ok e → e.toBytes nfc = .ok b) ∧
    ∀ kind kind' value value' p, contentPreimage nfc kind value = .ok p →
      contentPreimage nfc kind' value' = .ok p →
      kind = kind' ∧ normalized nfc value = normalized nfc value' := by
  refine ⟨fun kind body attestations e he => ?_, fun b e he => (fromBytes_created he).2,
    fun kind kind' value value' p hp hp' => contentPreimage_inj hp hp'⟩
  obtain ⟨hcreated, -⟩ := create_created he
  obtain ⟨b, hb⟩ := hcreated.bytes
  exact ⟨b, hb, hcreated.fromBytes hb⟩

/-- The hash of the sample envelope's preimage. -/
def sampleDigest : BitVec 256 :=
  0xa023e12b4c8f196f4380b56b8ca941e7f7a6edf25f29d919c539a4182f10be1a

/-- The kind, the body and the attestations of a sample envelope. -/
def sampleEnvelope : Except String EnvelopeV1 :=
  EnvelopeV1.create (fun _ => true) (fun _ => sampleDigest) "candidate"
    (.obj [("line", .int 3)]) (.arr [])

/-- The sample envelope and its bytes. -/
theorem envelope_codec_sample :
    ∃ e b, sampleEnvelope = .ok e ∧ e.toBytes (fun _ => true) = .ok b ∧
      EnvelopeV1.fromBytes (fun _ => true) (fun _ => sampleDigest) b = .ok e ∧
      ∀ e', EnvelopeV1.fromBytes (fun _ => true) (fun _ => sampleDigest) b = .ok e' →
        e'.toBytes (fun _ => true) = .ok b := by
  have hok : sampleEnvelope.isOk = true := by decide +kernel
  cases he : sampleEnvelope with
  | error m =>
    rw [he] at hok
    simp [Except.isOk, Except.toBool] at hok
  | ok e =>
    obtain ⟨hcreate, hbytes, -⟩ := envelope_codec (fun _ => true) fun _ => sampleDigest
    obtain ⟨b, hb, hread⟩ := hcreate _ _ _ _ he
    exact ⟨e, b, rfl, hb, hread, hbytes b⟩

end Etzio
