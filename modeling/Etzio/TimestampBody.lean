import Mathlib
import Etzio.CheckedRun
import Etzio.Delimiters

/-!
# The HTTP timestamp decoder

`timestampBody`, the offline decoder of a captured HTTP response, against the responses it is
meant for. A `Framing` is a version, a reason, header fields and a body that is sent as it is, at a
declared length or in chunks ; `Framing.WellFormed` says which of these are responses within the
limits and `Framing.encode` writes one out.

* `timestampBody_encode` : the encoding of a framing decodes to its body.
* `framing_of_timestampBody` : every response that is decoded is the encoding of a framing with
  the body that is returned.
* `encode_injective` : no response is the encoding of two framings.
* `timestamp_framing` : the three together.
-/

open CheckedRun Delimiters

namespace Etzio.Http

/-- The bytes of a wire. -/
abbrev Bytes : Type := List UInt8

/-- The bytes of an ASCII text. -/
def ascii (text : String) : Bytes := text.toList.map fun c => UInt8.ofNat c.toNat

/-- `CaptureError`. -/
structure CaptureError where
  reason : String
  deriving DecidableEq, Repr

/-! ## Bytes -/

/-- `MAX_WIRE`. -/
def maxWire : ℕ := 65536

def crlf : Bytes := [13, 10]

/-- The bytes from space to tilde. -/
def isPrintable (c : UInt8) : Bool := 0x20 ≤ c && c ≤ 0x7e

/-- The bytes of the value of a header. -/
def isFieldByte (c : UInt8) : Bool := c = 9 || isPrintable c

def isDigit (c : UInt8) : Bool := 48 ≤ c && c ≤ 57

def isUpper (c : UInt8) : Bool := 65 ≤ c && c ≤ 90

def isLower (c : UInt8) : Bool := 97 ≤ c && c ≤ 122

/-- The bytes of the name of a header. -/
def isTokenByte (c : UInt8) : Bool :=
  isDigit c || isUpper c || isLower c ||
    c ∈ [33, 35, 36, 37, 38, 39, 42, 43, 46, 94, 95, 96, 124, 126, 45]

def isHexDigit (c : UInt8) : Bool := isDigit c || (65 ≤ c && c ≤ 70) || (97 ≤ c && c ≤ 102)

/-- `bytes.lower`. -/
def lower (text : Bytes) : Bytes := text.map fun c => if isUpper c then c + 32 else c

/-- `strip` of blanks. -/
def strip (text : Bytes) : Bytes :=
  ((text.dropWhile (· ∈ [32, 9])).reverse.dropWhile (· ∈ [32, 9])).reverse

/-- The value of a digit. -/
def digitValue (c : UInt8) : ℕ :=
  if isDigit c then c.toNat - 48 else if isUpper c then c.toNat - 55 else c.toNat - 87

/-- `int` of digits in a base. -/
def intOf (base : ℕ) (digits : Bytes) : ℕ := Nat.ofDigits base (digits.map digitValue).reverse

/-! ## The decoder -/

/-- The status of a response of version 1.0 or 1.1 that succeeded. -/
def isStatusLine (line : Bytes) : Bool :=
  ((ascii "HTTP/1.0 200 ").isPrefixOf line || (ascii "HTTP/1.1 200 ").isPrefixOf line) &&
    (line.drop 13).all isPrintable

/-- The name and the value of a header. -/
def headerOf (line : Bytes) : Option (Bytes × Bytes) :=
  match line.span isTokenByte with
  | (name, 58 :: value) =>
    if name ≠ [] ∧ value.all isFieldByte = true then some (name, value) else none
  | _ => none

/-- Add a header to those before it. -/
def addHeader (headers : List (Bytes × Bytes)) (line : Bytes) :
    Except CaptureError (List (Bytes × Bytes)) := do
  let header ← orRefuse (headerOf line) ⟨"http_header"⟩
  let name := lower header.1
  refuseIf (name ∈ headers.map Prod.fst) ⟨"http_duplicate_header"⟩
  return headers ++ [(name, lower (strip header.2))]

/-- The size of a chunk, in one to eight hexadecimal digits. -/
def isChunkSize (text : Bytes) : Bool :=
  1 ≤ text.length && text.length ≤ 8 && text.all isHexDigit

/-- The loop over the chunks of a body. -/
def chunkLoop (body : Bytes) : ℕ → ℕ → Bytes → Except CaptureError Bytes
  | 0, _, _ => .error ⟨"http_chunk_count"⟩
  | n + 1, position, decoded => do
    let stop ← orRefuse (findFrom crlf body position) ⟨"http_chunk_size"⟩
    refuseIf (isChunkSize (slice body position stop) = false) ⟨"http_chunk_size"⟩
    let size := intOf 16 (slice body position stop)
    let position := stop + 2
    if size = 0 then do
      refuseIf (body.drop position ≠ crlf) ⟨"http_trailer_or_extra"⟩
      return decoded
    else do
      refuseIf (¬(size ≤ maxWire ∧ slice body (position + size) (position + size + 2) = crlf))
        ⟨"http_chunk_body"⟩
      chunkLoop body n (position + size + 2) (decoded ++ slice body position (position + size))

/-- A decimal length of one to five digits without leading zeros. -/
def isContentLength (text : Bytes) : Bool :=
  match text with
  | [] => false
  | c :: rest =>
    (c = 48 && rest.isEmpty) || (49 ≤ c && c ≤ 57 && rest.all isDigit && rest.length ≤ 4)

/-- The body of a response, by the headers about its length. -/
def contentOf (headers : List (Bytes × Bytes)) (status body : Bytes) : Except CaptureError Bytes :=
  match headers.lookup (ascii "transfer-encoding"), headers.lookup (ascii "content-length") with
  | some transfer, _ => do
    refuseIf (transfer ≠ ascii "chunked") ⟨"http_transfer_coding"⟩
    refuseIf ((ascii "HTTP/1.1 ").isPrefixOf status = false) ⟨"http_transfer_version"⟩
    chunkLoop body 257 0 []
  | none, some length => do
    refuseIf (isContentLength length = false) ⟨"http_content_length"⟩
    refuseIf (intOf 10 length ≠ body.length) ⟨"http_body_length"⟩
    return body
  | none, none => return body

/-- `timestamp_body`. -/
def timestampBody (wire : Bytes) : Except CaptureError Bytes := do
  refuseIf (¬(0 < wire.length ∧ wire.length ≤ maxWire)) ⟨"http_size"⟩
  let boundary ← orRefuse (find [13, 10, 13, 10] wire) ⟨"http_header_size"⟩
  refuseIf (8192 - 4 < boundary) ⟨"http_header_size"⟩
  let lines := split 13 10 (wire.take boundary)
  let status := lines.headD []
  refuseIf (isStatusLine status = false) ⟨"http_status"⟩
  refuseIf (65 < lines.length) ⟨"http_header_count"⟩
  let headers ← lines.tail.foldlM addHeader []
  refuseIf (headers.lookup (ascii "content-type") ≠ some (ascii "application/timestamp-reply"))
    ⟨"http_media_type"⟩
  refuseIf ((headers.lookup (ascii "content-encoding")).getD (ascii "identity") ≠ ascii "identity")
    ⟨"http_content_coding"⟩
  let body := wire.drop (boundary + 4)
  refuseIf ((headers.lookup (ascii "content-length")).isSome = true ∧
    (headers.lookup (ascii "transfer-encoding")).isSome = true) ⟨"http_ambiguous_length"⟩
  let body ← contentOf headers status body
  refuseIf (body = []) ⟨"http_empty_body"⟩
  return body

/-! ## Framings -/

/-- A header field as it is written. -/
structure Header where
  name : Bytes
  value : Bytes
  deriving DecidableEq

namespace Header

variable (h : Header)

def line : Bytes := h.name ++ 58 :: h.value

/-- The field that a header sets. -/
def field : Bytes × Bytes := (lower h.name, lower (Http.strip h.value))

/-- A name of token bytes and a value of field bytes. -/
def WellFormed : Prop :=
  h.name ≠ [] ∧ (∀ c ∈ h.name, isTokenByte c = true) ∧ ∀ c ∈ h.value, isFieldByte c = true

end Header

/-- Part of a body with its size in hexadecimal digits. -/
structure Chunk where
  size : Bytes
  data : Bytes
  deriving DecidableEq

namespace Chunk

variable (c : Chunk)

def encode : Bytes := c.size ++ crlf ++ c.data ++ crlf

/-- A nonempty part after its own size. -/
def WellFormed : Prop :=
  isChunkSize c.size = true ∧ intOf 16 c.size = c.data.length ∧ c.data ≠ []

end Chunk

/-- How a body is sent : up to the end, at a declared length, or in chunks before a chunk of
size zero. -/
inductive Content
  | closed (body : Bytes)
  | sized (body : Bytes)
  | chunked (chunks : List Chunk) (last : Bytes)
  deriving DecidableEq

def Content.body : Content → Bytes
  | .closed body | .sized body => body
  | .chunked chunks _ => chunks.flatMap Chunk.data

def Content.encode : Content → Bytes
  | .closed body | .sized body => body
  | .chunked chunks last => chunks.flatMap Chunk.encode ++ last ++ crlf ++ crlf

inductive Version
  | http10
  | http11
  deriving DecidableEq

def Version.text : Version → Bytes
  | .http10 => ascii "HTTP/1.0 "
  | .http11 => ascii "HTTP/1.1 "

/-- A response with a body. -/
structure Framing where
  version : Version
  reason : Bytes
  headers : List Header
  content : Content
  deriving DecidableEq

namespace Framing

variable (f : Framing)

def status : Bytes := f.version.text ++ ascii "200 " ++ f.reason

def head : Bytes := crlf.intercalate (f.status :: f.headers.map Header.line)

def encode : Bytes := f.head ++ crlf ++ crlf ++ f.content.encode

/-- The value of a field, whatever the case and the blanks it is written with. -/
def field? (name : String) : Option Bytes := (f.headers.map Header.field).lookup (ascii name)

/-- The decimal digits of a length. -/
def decimal (n : ℕ) : Bytes := (Nat.digits 10 n).reverse.map fun d => UInt8.ofNat (48 + d)

/-- The headers announce the content as it is sent, and chunks are well formed and at most 256. -/
def Announced : Prop :=
  match f.content with
  | .closed _ => f.field? "transfer-encoding" = none ∧ f.field? "content-length" = none
  | .sized body =>
    f.field? "transfer-encoding" = none ∧
      f.field? "content-length" = some (decimal body.length)
  | .chunked chunks last =>
    f.version = .http11 ∧ f.field? "transfer-encoding" = some (ascii "chunked") ∧
      f.field? "content-length" = none ∧ chunks.length ≤ 256 ∧ (∀ c ∈ chunks, c.WellFormed) ∧
      isChunkSize last = true ∧ intOf 16 last = 0

/-- A timestamp response with a body, within the limits of the decoder. -/
structure WellFormed : Prop where
  reason : ∀ c ∈ f.reason, isPrintable c = true
  headers : ∀ h ∈ f.headers, h.WellFormed
  names : (f.headers.map fun h => lower h.name).Nodup
  count : f.headers.length ≤ 64
  media : f.field? "content-type" = some (ascii "application/timestamp-reply")
  coding : f.field? "content-encoding" = none ∨
    f.field? "content-encoding" = some (ascii "identity")
  announced : f.Announced
  body : f.content.body ≠ []
  head : f.head.length ≤ 8188
  size : f.encode.length ≤ 65536

end Framing

/-! ## Bytes and lines -/

theorem printable_ne {c : UInt8} (h : isPrintable c = true) : c ≠ 13 := by
  rintro rfl
  exact absurd h (by decide)

theorem fieldByte_ne {c : UInt8} (h : isFieldByte c = true) : c ≠ 13 := by
  rintro rfl
  exact absurd h (by decide)

theorem tokenByte_ne {c : UInt8} (h : isTokenByte c = true) : c ≠ 13 ∧ c ≠ 58 := by
  constructor <;> rintro rfl <;> exact absurd h (by decide)

theorem hexDigit_ne {c : UInt8} (h : isHexDigit c = true) : c ≠ 13 := by
  rintro rfl
  exact absurd h (by decide)

/-- The line of a header has its name and its value, and nothing else is the line of a header. -/
theorem headerOf_eq_some {line : Bytes} {h : Bytes × Bytes} :
    headerOf line = some h ↔ line = Header.line ⟨h.1, h.2⟩ ∧ Header.WellFormed ⟨h.1, h.2⟩ := by
  obtain ⟨name, value⟩ := h
  rw [headerOf, List.span_eq_takeWhile_dropWhile]
  constructor
  · intro h
    split at h
    next name' value' hspan =>
      obtain ⟨rfl, hdrop⟩ := Prod.mk.injEq .. ▸ hspan
      split_ifs at h with hvalue
      obtain ⟨rfl, rfl⟩ := Prod.mk.injEq .. ▸ Option.some.inj h
      refine ⟨?_, hvalue.1, List.all_eq_true.mp List.all_takeWhile, List.all_eq_true.mp hvalue.2⟩
      rw [Header.line, ← hdrop, List.takeWhile_append_dropWhile]
    next => exact absurd h (by simp)
  · rintro ⟨rfl, hname, htoken, hfield⟩
    have hstop : isTokenByte 58 = false := by decide
    rw [Header.line, List.takeWhile_append_of_pos htoken, List.dropWhile_append_of_pos htoken,
      List.takeWhile_cons_of_neg (by simp [hstop]), List.dropWhile_cons_of_neg (by simp [hstop]),
      List.append_nil]
    exact if_pos ⟨hname, List.all_eq_true.mpr hfield⟩

theorem Header.line_injective {h k : Header} (hh : h.WellFormed) (hk : k.WellFormed)
    (heq : h.line = k.line) : h = k := by
  have hleft := headerOf_eq_some (h := (h.name, h.value)).mpr ⟨rfl, hh⟩
  have hright := headerOf_eq_some (h := (k.name, k.value)).mpr ⟨rfl, hk⟩
  rw [← heq, hleft] at hright
  obtain ⟨hname, hvalue⟩ := Prod.mk.injEq .. ▸ Option.some.inj hright
  cases h
  cases k
  simp_all

theorem Header.line_clean {h : Header} (hh : h.WellFormed) : h.line ≠ [] ∧ 13 ∉ h.line := by
  refine ⟨by simp [Header.line], fun hmem => ?_⟩
  rcases List.mem_append.mp hmem with hname | hvalue
  · exact (tokenByte_ne (hh.2.1 _ hname)).1 rfl
  · rcases List.mem_cons.mp hvalue with h | h
    · exact absurd h (by decide)
    · exact fieldByte_ne (hh.2.2 _ h) rfl

theorem Version.text_append (version : Version) (reason : Bytes) :
    version.text ++ ascii "200 " ++ reason =
      ascii (if version = .http10 then "HTTP/1.0 200 " else "HTTP/1.1 200 ") ++ reason := by
  cases version <;> rfl

theorem isStatusLine_iff {line : Bytes} :
    isStatusLine line = true ↔
      ∃ version : Version, ∃ reason, line = version.text ++ ascii "200 " ++ reason ∧
        ∀ c ∈ reason, isPrintable c = true := by
  rw [isStatusLine, Bool.and_eq_true, Bool.or_eq_true, List.isPrefixOf_iff_prefix,
    List.isPrefixOf_iff_prefix, List.all_eq_true]
  constructor
  · rintro ⟨⟨reason, rfl⟩ | ⟨reason, rfl⟩, h⟩
    · exact ⟨.http10, reason, rfl, h⟩
    · exact ⟨.http11, reason, rfl, h⟩
  · rintro ⟨version, reason, rfl, h⟩
    cases version with
    | http10 => exact ⟨.inl ⟨reason, rfl⟩, h⟩
    | http11 => exact ⟨.inr ⟨reason, rfl⟩, h⟩

/-- A header that is added is well formed and sets a new field. -/
theorem addHeader_eq_ok {before after : List (Bytes × Bytes)} {line : Bytes} :
    addHeader before line = .ok after ↔
      ∃ h : Header, line = h.line ∧ h.WellFormed ∧ h.field.1 ∉ before.map Prod.fst ∧
        after = before ++ [h.field] := by
  rw [addHeader, orRefuse_bind_eq_ok]
  simp only [headerOf_eq_some, unit_bind_eq_ok, refuseIf_eq_ok, pure, Except.pure,
    Except.ok.injEq]
  constructor
  · rintro ⟨⟨name, value⟩, ⟨hline, hformed⟩, hnew, rfl⟩
    exact ⟨⟨name, value⟩, hline, hformed, hnew, rfl⟩
  · rintro ⟨⟨name, value⟩, hline, hformed, hnew, rfl⟩
    exact ⟨(name, value), ⟨hline, hformed⟩, hnew, rfl⟩

/-- Headers are read one by one, and their fields are set at most once. -/
theorem foldlM_addHeader {lines : List Bytes} {before after : List (Bytes × Bytes)}
    (hbefore : (before.map Prod.fst).Nodup) :
    lines.foldlM addHeader before = .ok after ↔
      ∃ headers : List Header, lines = headers.map Header.line ∧
        (∀ h ∈ headers, h.WellFormed) ∧ after = before ++ headers.map Header.field ∧
        (after.map Prod.fst).Nodup := by
  induction lines generalizing before with
  | nil =>
    simp only [List.foldlM_nil, pure, Except.pure, Except.ok.injEq]
    constructor
    · rintro rfl
      exact ⟨[], rfl, by simp, by simp, hbefore⟩
    · rintro ⟨headers, hlines, -, rfl, -⟩
      obtain rfl : headers = [] := by simpa using hlines.symm
      simp
  | cons line lines ih =>
    rw [foldlM_cons_eq_ok]
    constructor
    · rintro ⟨middle, hadd, hrest⟩
      obtain ⟨h, rfl, hformed, hnew, rfl⟩ := addHeader_eq_ok.mp hadd
      have hmiddle : ((before ++ [h.field]).map Prod.fst).Nodup := by
        rw [List.map_append, List.map_singleton]
        exact hbefore.append (List.nodup_singleton _) (List.disjoint_singleton.mpr hnew)
      obtain ⟨headers, rfl, hall, rfl, hnodup⟩ := (ih hmiddle).mp hrest
      exact ⟨h :: headers, rfl, List.forall_mem_cons.mpr ⟨hformed, hall⟩, by simp, hnodup⟩
    · rintro ⟨headers, hlines, hall, rfl, hnodup⟩
      obtain ⟨h, headers, rfl, rfl, rfl⟩ := List.map_eq_cons_iff.mp hlines.symm
      rw [List.map_cons, List.append_cons] at hnodup
      have hmiddle : ((before ++ [h.field]).map Prod.fst).Nodup := by
        rw [List.map_append] at hnodup
        exact hnodup.of_append_left
      refine ⟨before ++ [h.field], addHeader_eq_ok.mpr
        ⟨h, rfl, hall h List.mem_cons_self, ?_, rfl⟩, (ih hmiddle).mpr
        ⟨headers, rfl, fun k hk => hall k (List.mem_cons_of_mem _ hk), by simp, ?_⟩⟩
      · rw [List.map_append, List.map_singleton] at hmiddle
        exact List.disjoint_singleton.mp (List.disjoint_of_nodup_append hmiddle)
      · simpa using hnodup

/-! ## Chunks -/

theorem chunkSize_clean {size : Bytes} (h : isChunkSize size = true) : 13 ∉ size := by
  rw [isChunkSize, Bool.and_eq_true, List.all_eq_true] at h
  exact fun hmem => hexDigit_ne (h.2 _ hmem) rfl

/-- One chunk of the loop : the last, or one with data before the others. -/
theorem chunkLoop_succ {body decoded out : Bytes} {n position : ℕ} :
    chunkLoop body (n + 1) position decoded = .ok out ↔
      ∃ size rest, body.drop position = size ++ crlf ++ rest ∧ isChunkSize size = true ∧
        (intOf 16 size = 0 ∧ rest = crlf ∧ out = decoded ∨
          intOf 16 size ≠ 0 ∧ ∃ data more, rest = data ++ crlf ++ more ∧
            intOf 16 size = data.length ∧ data.length ≤ maxWire ∧
            chunkLoop body n (position + size.length + 2 + data.length + 2) (decoded ++ data) =
              .ok out) := by
  rw [chunkLoop, orRefuse_bind_eq_ok]
  constructor
  · rintro ⟨stop, hstop, h⟩
    obtain ⟨size, rest, hdrop, rfl⟩ := drop_of_findFrom hstop
    have hsize : slice body position (position + size.length) = size :=
      slice_of_drop (r := crlf ++ rest) (by rw [hdrop, List.append_assoc])
    have hrest : body.drop (position + size.length + 2) = rest := by
      have := drop_past (p := size ++ crlf) hdrop
      rwa [List.length_append, ← Nat.add_assoc] at this
    rw [unit_bind_eq_ok, refuseIf_eq_ok, hsize, Bool.not_eq_false] at h
    refine ⟨size, rest, hdrop, h.1, ?_⟩
    have h := h.2
    dsimp only at h
    split_ifs at h with hzero
    · rw [unit_bind_eq_ok, refuseIf_eq_ok, not_not] at h
      exact .inl ⟨hzero, hrest.symm.trans h.1, (Except.ok.inj h.2).symm⟩
    · rw [unit_bind_eq_ok, refuseIf_eq_ok, not_not] at h
      obtain ⟨⟨hle, hend⟩, hloop⟩ := h
      obtain ⟨data, more, hcut, hlength⟩ :=
        cut_of_slice (p := crlf) (n := intOf 16 size) (by decide) hend
      have hdata := slice_of_drop (p := data) (r := crlf ++ more)
        (by rw [hcut, List.append_assoc])
      rw [← hlength, hdata] at hloop
      exact .inr ⟨hzero, data, more, hrest.symm.trans hcut, hlength.symm, hlength ▸ hle, hloop⟩
  · rintro ⟨size, rest, hdrop, hsize, h⟩
    refine ⟨_, findFrom_of_drop (chunkSize_clean hsize) hdrop, ?_⟩
    have hslice : slice body position (position + size.length) = size :=
      slice_of_drop (r := crlf ++ rest) (by rw [hdrop, List.append_assoc])
    have hrest : body.drop (position + size.length + 2) = rest := by
      have := drop_past (p := size ++ crlf) hdrop
      rwa [List.length_append, ← Nat.add_assoc] at this
    rw [hslice, refuseIf_bind_of_not (by simp [hsize])]
    dsimp only
    rcases h with ⟨hzero, hlast, rfl⟩ | ⟨hzero, data, more, rfl, hlength, hle, hloop⟩
    · rw [if_pos hzero, hrest, refuseIf_bind_of_not (by simp [hlast])]
      rfl
    · have hdata : slice body (position + size.length + 2)
          (position + size.length + 2 + data.length) = data :=
        slice_of_drop (r := crlf ++ more) (by rw [hrest, List.append_assoc])
      have hend : slice body (position + size.length + 2 + data.length)
          (position + size.length + 2 + data.length + 2) = crlf :=
        slice_of_drop (p := crlf) (r := more)
          (drop_past (by rw [hrest, List.append_assoc]))
      rw [if_neg hzero, hlength, hdata, refuseIf_bind_of_not (not_not.mpr ⟨hle, hend⟩)]
      exact hloop

/-- The loop reads chunks and a last chunk of size zero, and nothing after it. -/
theorem chunkLoop_eq_ok {body : Bytes} (hbody : body.length ≤ maxWire) {n position : ℕ}
    {decoded out : Bytes} :
    chunkLoop body n position decoded = .ok out ↔
      ∃ chunks last, body.drop position = (Content.chunked chunks last).encode ∧
        chunks.length < n ∧ (∀ c ∈ chunks, c.WellFormed) ∧
        (isChunkSize last = true ∧ intOf 16 last = 0) ∧
        out = decoded ++ (Content.chunked chunks last).body := by
  induction n generalizing position decoded with
  | zero =>
    constructor
    · intro h
      exact absurd h (by simp [chunkLoop])
    · rintro ⟨chunks, last, -, h, -⟩
      exact absurd h (Nat.not_lt_zero _)
  | succ n ih =>
    rw [chunkLoop_succ]
    constructor
    · rintro ⟨size, rest, hdrop, hsize, h⟩
      rcases h with ⟨hzero, rfl, rfl⟩ | ⟨hzero, data, more, rfl, hlength, hle, hloop⟩
      · exact ⟨[], size, hdrop, Nat.succ_pos n, by simp, ⟨hsize, hzero⟩, by simp [Content.body]⟩
      · obtain ⟨chunks, last, hmore, hcount, hall, hlast, rfl⟩ := ih.mp hloop
        have hpast := drop_past (p := size ++ crlf ++ data ++ crlf) (r := more)
          (by rw [hdrop]; simp only [List.append_assoc])
        have hposition : position + (size ++ crlf ++ data ++ crlf).length =
            position + size.length + 2 + data.length + 2 := by
          simp only [List.length_append, crlf, List.length_cons, List.length_nil]
          omega
        rw [hposition, hmore] at hpast
        have hne : data ≠ [] := fun h => hzero (by rw [hlength, h, List.length_nil])
        refine ⟨⟨size, data⟩ :: chunks, last, ?_, Nat.succ_lt_succ hcount,
          List.forall_mem_cons.mpr ⟨⟨hsize, hlength, hne⟩, hall⟩, hlast, ?_⟩
        · rw [hdrop, ← hpast]
          simp [Content.encode, Chunk.encode]
        · simp [Content.body]
    · rintro ⟨chunks, last, hdrop, hcount, hall, ⟨hlast, hzero⟩, rfl⟩
      cases chunks with
      | nil =>
        exact ⟨last, crlf, hdrop, hlast, .inl ⟨hzero, rfl, by simp [Content.body]⟩⟩
      | cons c chunks =>
        obtain ⟨⟨hsize, hlength, hne⟩, hrest⟩ := List.forall_mem_cons.mp hall
        have hcut : body.drop position =
            c.size ++ crlf ++ (c.data ++ crlf ++ (Content.chunked chunks last).encode) := by
          rw [hdrop]
          simp [Content.encode, Chunk.encode]
        have hpast := drop_past (p := c.size ++ crlf ++ c.data ++ crlf)
          (r := (Content.chunked chunks last).encode)
          (by rw [hcut]; simp only [List.append_assoc])
        have hposition : position + (c.size ++ crlf ++ c.data ++ crlf).length =
            position + c.size.length + 2 + c.data.length + 2 := by
          simp only [List.length_append, crlf, List.length_cons, List.length_nil]
          omega
        rw [hposition] at hpast
        refine ⟨c.size, _, hcut, hsize, .inr ⟨?_, c.data, _, rfl, hlength, ?_, ?_⟩⟩
        · rw [hlength]
          exact fun h => hne (List.length_eq_zero_iff.mp h)
        · have hle := congrArg List.length hcut
          simp only [List.length_drop, List.length_append] at hle
          omega
        · refine ih.mpr ⟨chunks, last, hpast, Nat.lt_of_succ_lt_succ hcount, hrest,
            ⟨hlast, hzero⟩, ?_⟩
          simp [Content.body]

/-! ## Lengths -/

theorem isDigit_iff {c : UInt8} : isDigit c = true ↔ 48 ≤ c.toNat ∧ c.toNat ≤ 57 := by
  rw [isDigit, Bool.and_eq_true, decide_eq_true_eq, decide_eq_true_eq, UInt8.le_iff_toNat_le,
    UInt8.le_iff_toNat_le]
  rfl

theorem digitValue_lt {c : UInt8} (h : isDigit c = true) : digitValue c < 10 := by
  have := isDigit_iff.mp h
  rw [digitValue, if_pos h]
  omega

/-- A digit is written back as the byte it was read from. -/
theorem ofNat_digitValue {c : UInt8} (h : isDigit c = true) :
    UInt8.ofNat (48 + digitValue c) = c := by
  rw [digitValue, if_pos h, Nat.add_sub_cancel' (isDigit_iff.mp h).1, UInt8.ofNat_toNat]

theorem digit_ofNat {d : ℕ} (h : d < 10) :
    isDigit (UInt8.ofNat (48 + d)) = true ∧ digitValue (UInt8.ofNat (48 + d)) = d ∧
      (d ≠ 0 → 49 ≤ UInt8.ofNat (48 + d)) := by
  interval_cases d <;> decide

/-- The digits of a length are a length that the decoder reads. -/
theorem intOf_decimal {n : ℕ} (hpos : n ≠ 0) (hle : n ≤ maxWire) :
    isContentLength (Framing.decimal n) = true ∧ intOf 10 (Framing.decimal n) = n := by
  have hlt : ∀ d ∈ Nat.digits 10 n, d < 10 := fun d hd => Nat.digits_lt_base (by decide) hd
  constructor
  · obtain ⟨d, rest, hdigits⟩ := List.exists_cons_of_ne_nil
      (mt List.reverse_eq_nil_iff.mp (Nat.digits_ne_nil_iff_ne_zero.mpr hpos))
    have hsplit : Nat.digits 10 n = rest.reverse ++ [d] := by
      rw [← List.reverse_reverse (Nat.digits 10 n), hdigits, List.reverse_cons]
    have hd : d ≠ 0 := by
      have hlast := Nat.getLast_digit_ne_zero 10 hpos
      simpa only [hsplit, List.getLast_append_singleton] using hlast
    have hcount : (Nat.digits 10 n).length ≤ 5 :=
      (Nat.digits_length_le_iff (by decide) n).mpr (lt_of_le_of_lt hle (by decide))
    rw [hsplit, List.length_append, List.length_reverse, List.length_singleton] at hcount
    have hfirst := digit_ofNat (hlt d (by rw [hsplit]; simp))
    have hrest : (rest.map fun d => UInt8.ofNat (48 + d)).all isDigit = true := by
      rw [List.all_map, List.all_eq_true]
      intro e he
      exact (digit_ofNat (hlt e (by rw [hsplit]; simp [he]))).1
    have hupper : UInt8.ofNat (48 + d) ≤ 57 := by
      have := (isDigit_iff.mp hfirst.1).2
      rwa [UInt8.le_iff_toNat_le]
    rw [Framing.decimal, hdigits, List.map_cons, isContentLength]
    simp only [hfirst.2.2 hd, hupper, hrest, List.length_map, Bool.or_eq_true, Bool.and_eq_true,
      decide_eq_true_eq, true_and]
    exact .inr (by omega)
  · rw [intOf, Framing.decimal, List.map_map]
    have hmap : (Nat.digits 10 n).reverse.map (digitValue ∘ fun d => UInt8.ofNat (48 + d)) =
        (Nat.digits 10 n).reverse := by
      conv_rhs => rw [← List.map_id (Nat.digits 10 n).reverse]
      refine List.map_congr_left fun d hd => ?_
      exact (digit_ofNat (hlt d (List.mem_reverse.mp hd))).2.1
    rw [hmap, List.reverse_reverse, Nat.ofDigits_digits]

/-- A length that the decoder reads is written in its decimal digits. -/
theorem eq_decimal {length : Bytes} (h : isContentLength length = true)
    (hpos : intOf 10 length ≠ 0) : length = Framing.decimal (intOf 10 length) := by
  cases length with
  | nil => exact absurd h (by simp [isContentLength])
  | cons c rest =>
    rw [isContentLength, Bool.or_eq_true, Bool.and_eq_true] at h
    rcases h with ⟨hc, hrest⟩ | h
    · obtain rfl := of_decide_eq_true hc
      obtain rfl := List.isEmpty_iff.mp hrest
      exact absurd rfl hpos
    · simp only [Bool.and_eq_true, decide_eq_true_eq, List.all_eq_true] at h
      obtain ⟨⟨⟨hlow, hhigh⟩, hrest⟩, -⟩ := h
      rw [UInt8.le_iff_toNat_le] at hlow hhigh
      have hlow : 49 ≤ c.toNat := hlow
      have hc : isDigit c = true := isDigit_iff.mpr ⟨by omega, hhigh⟩
      have hall : ∀ e ∈ c :: rest, isDigit e = true := List.forall_mem_cons.mpr ⟨hc, hrest⟩
      have hdigits : Nat.digits 10 (intOf 10 (c :: rest)) =
          ((c :: rest).map digitValue).reverse := by
        refine Nat.digits_ofDigits 10 (by decide) _ ?_ ?_
        · intro d hd
          obtain ⟨e, he, rfl⟩ := List.mem_map.mp (List.mem_reverse.mp hd)
          exact digitValue_lt (hall e he)
        · intro hne
          rw [List.getLast_reverse]
          simp only [List.map_cons, List.head_cons, digitValue, if_pos hc]
          omega
      rw [Framing.decimal, hdigits, List.reverse_reverse, List.map_map]
      conv_lhs => rw [← List.map_id (c :: rest)]
      refine List.map_congr_left fun e he => ?_
      exact (ofNat_digitValue (hall e he)).symm

/-! ## Content -/

namespace Framing

variable {f : Framing}

theorem version_of_status :
    (ascii "HTTP/1.1 ").isPrefixOf f.status = true ↔ f.version = .http11 := by
  rw [status, Version.text_append]
  cases f.version <;> simp [ascii]

end Framing

/-- The content of a response is found exactly as the headers announce it. -/
theorem contentOf_eq_ok {f : Framing} {body out : Bytes} (hbody : body.length ≤ maxWire)
    (hout : out ≠ []) :
    (¬((f.field? "content-length").isSome = true ∧ (f.field? "transfer-encoding").isSome = true) ∧
        contentOf (f.headers.map Header.field) f.status body = .ok out) ↔
      ∃ content, content.encode = body ∧ content.body = out ∧
        Framing.Announced { f with content := content } := by
  have hcontent : contentOf (f.headers.map Header.field) f.status body =
      match f.field? "transfer-encoding", f.field? "content-length" with
      | some transfer, _ => do
        refuseIf (transfer ≠ ascii "chunked") ⟨"http_transfer_coding"⟩
        refuseIf ((ascii "HTTP/1.1 ").isPrefixOf f.status = false) ⟨"http_transfer_version"⟩
        chunkLoop body 257 0 []
      | none, some length => do
        refuseIf (isContentLength length = false) ⟨"http_content_length"⟩
        refuseIf (intOf 10 length ≠ body.length) ⟨"http_body_length"⟩
        return body
      | none, none => return body := rfl
  constructor
  · rintro ⟨hambiguous, h⟩
    rw [hcontent] at h
    split at h
    next transfer _ htransfer =>
      have hlength : f.field? "content-length" = none := by
        by_contra hsome
        exact hambiguous ⟨Option.isSome_iff_ne_none.mpr hsome, by rw [htransfer]; rfl⟩
      simp only [unit_bind_eq_ok, refuseIf_eq_ok, not_not, Bool.not_eq_false] at h
      obtain ⟨rfl, hversion, hloop⟩ := h
      obtain ⟨chunks, last, hdrop, hcount, hall, ⟨hlast, hzero⟩, rfl⟩ :=
        (chunkLoop_eq_ok hbody).mp hloop
      exact ⟨.chunked chunks last, hdrop.symm, rfl, Framing.version_of_status.mp hversion,
        htransfer, hlength, Nat.lt_succ_iff.mp hcount, hall, hlast, hzero⟩
    next length htransfer hlength =>
      simp only [unit_bind_eq_ok, refuseIf_eq_ok, not_not, Bool.not_eq_false] at h
      obtain ⟨hformed, hint, hbody⟩ := h
      obtain rfl := Except.ok.inj hbody
      refine ⟨.sized body, rfl, rfl, htransfer, ?_⟩
      have hpos : intOf 10 length ≠ 0 := by
        rw [hint]
        exact fun h => hout (List.length_eq_zero_iff.mp h)
      rw [← hint, ← eq_decimal hformed hpos]
      exact hlength
    next htransfer hlength =>
      obtain rfl := Except.ok.inj h
      exact ⟨.closed body, rfl, rfl, htransfer, hlength⟩
  · rintro ⟨content, rfl, rfl, hannounced⟩
    rw [hcontent]
    cases content with
    | closed body =>
      obtain ⟨htransfer, hlength⟩ : f.field? "transfer-encoding" = none ∧
        f.field? "content-length" = none := hannounced
      rw [htransfer, hlength]
      exact ⟨by simp, rfl⟩
    | sized body =>
      obtain ⟨htransfer, hlength⟩ : f.field? "transfer-encoding" = none ∧
        f.field? "content-length" = some (Framing.decimal body.length) := hannounced
      rw [htransfer, hlength]
      obtain ⟨hformed, hint⟩ := intOf_decimal (mt List.length_eq_zero_iff.mp hout) hbody
      refine ⟨by simp, ?_⟩
      simp only [unit_bind_eq_ok, refuseIf_eq_ok, not_not, Bool.not_eq_false]
      exact ⟨hformed, hint, rfl⟩
    | chunked chunks last =>
      obtain ⟨hversion, htransfer, hlength, hcount, hall, hlast, hzero⟩ :
        f.version = .http11 ∧ f.field? "transfer-encoding" = some (ascii "chunked") ∧
          f.field? "content-length" = none ∧ chunks.length ≤ 256 ∧ (∀ c ∈ chunks, c.WellFormed) ∧
          isChunkSize last = true ∧ intOf 16 last = 0 := hannounced
      rw [htransfer, hlength]
      refine ⟨by simp, ?_⟩
      simp only [unit_bind_eq_ok, refuseIf_eq_ok, not_not, Bool.not_eq_false]
      exact ⟨trivial, Framing.version_of_status.mpr hversion, (chunkLoop_eq_ok hbody).mpr
        ⟨chunks, last, rfl, Nat.lt_succ_iff.mpr hcount, hall, ⟨hlast, hzero⟩, rfl⟩⟩

/-! ## Responses -/

namespace Framing

variable {f : Framing}

/-- The lines of a head. -/
def lines (f : Framing) : List Bytes := f.status :: f.headers.map Header.line

theorem status_clean (h : f.WellFormed) : f.status ≠ [] ∧ 13 ∉ f.status := by
  rw [status, Version.text_append]
  have hhead : 13 ∉ ascii (if f.version = .http10 then "HTTP/1.0 200 " else "HTTP/1.1 200 ") := by
    cases f.version <;> decide
  refine ⟨by cases f.version <;> simp [ascii], fun hmem => ?_⟩
  rcases List.mem_append.mp hmem with htext | hreason
  · exact hhead htext
  · exact printable_ne (h.reason _ hreason) rfl

theorem lines_clean (h : f.WellFormed) : ∀ line ∈ f.lines, line ≠ [] ∧ 13 ∉ line := by
  intro line hline
  rcases List.mem_cons.mp hline with rfl | hheader
  · exact status_clean h
  · obtain ⟨header, hmem, rfl⟩ := List.mem_map.mp hheader
    exact Header.line_clean (h.headers header hmem)

/-- The head ends at the first empty line. -/
theorem find_head (h : f.WellFormed) : find [13, 10, 13, 10] f.encode = some f.head.length := by
  have hdouble := find_double (a := (13 : UInt8)) (b := 10) (by decide) (List.cons_ne_nil _ _)
    (lines_clean h) f.content.encode
  rw [encode, List.append_assoc, List.append_assoc]
  exact hdouble

theorem take_head : f.encode.take f.head.length = f.head := by
  rw [encode, List.append_assoc, List.append_assoc, List.take_left]

theorem drop_head : f.encode.drop (f.head.length + 4) = f.content.encode :=
  List.drop_left' (by simp [crlf])

theorem split_head (h : f.WellFormed) : split 13 10 f.head = f.lines :=
  split_intercalate (List.cons_ne_nil _ _) fun line hline => (lines_clean h line hline).2

end Framing

/-- What a response passes on its way to a body. -/
theorem timestampBody_eq_ok {wire out : Bytes} :
    timestampBody wire = .ok out ↔
      (0 < wire.length ∧ wire.length ≤ maxWire) ∧
      ∃ boundary, find [13, 10, 13, 10] wire = some boundary ∧ ¬8192 - 4 < boundary ∧
        isStatusLine ((split 13 10 (wire.take boundary)).headD []) = true ∧
        ¬65 < (split 13 10 (wire.take boundary)).length ∧
        ∃ headers, (split 13 10 (wire.take boundary)).tail.foldlM addHeader [] = .ok headers ∧
          headers.lookup (ascii "content-type") = some (ascii "application/timestamp-reply") ∧
          (headers.lookup (ascii "content-encoding")).getD (ascii "identity") =
            ascii "identity" ∧
          ¬((headers.lookup (ascii "content-length")).isSome = true ∧
            (headers.lookup (ascii "transfer-encoding")).isSome = true) ∧
          contentOf headers ((split 13 10 (wire.take boundary)).headD [])
            (wire.drop (boundary + 4)) = .ok out ∧ out ≠ [] := by
  rw [timestampBody, unit_bind_eq_ok, refuseIf_eq_ok, not_not, orRefuse_bind_eq_ok]
  refine and_congr_right fun _ => exists_congr fun boundary => and_congr_right fun _ => ?_
  rw [unit_bind_eq_ok, refuseIf_eq_ok]
  refine and_congr_right fun _ => ?_
  rw [unit_bind_eq_ok, refuseIf_eq_ok, Bool.not_eq_false]
  refine and_congr_right fun _ => ?_
  rw [unit_bind_eq_ok, refuseIf_eq_ok, bind_eq_ok]
  refine and_congr_right fun _ => exists_congr fun headers => and_congr_right fun _ => ?_
  rw [unit_bind_eq_ok, refuseIf_eq_ok, not_not, unit_bind_eq_ok, refuseIf_eq_ok, not_not,
    unit_bind_eq_ok, refuseIf_eq_ok, bind_eq_ok]
  refine and_congr_right fun _ => and_congr_right fun _ => and_congr_right fun _ => ?_
  simp only [unit_bind_eq_ok, refuseIf_eq_ok, pure, Except.pure, Except.ok.injEq]
  constructor
  · rintro ⟨body, hbody, hne, rfl⟩
    exact ⟨hbody, hne⟩
  · rintro ⟨hbody, hne⟩
    exact ⟨out, hbody, hne, rfl⟩

/-- The encoding of a framing decodes to its body. -/
theorem timestampBody_encode {f : Framing} (h : f.WellFormed) :
    timestampBody f.encode = .ok f.content.body := by
  have hnames : ((f.headers.map Header.field).map Prod.fst).Nodup := by
    rw [List.map_map]
    exact h.names
  have hheaders : (f.headers.map Header.line).foldlM addHeader [] =
      .ok (f.headers.map Header.field) :=
    (foldlM_addHeader (by simp)).mpr ⟨f.headers, rfl, h.headers, rfl, hnames⟩
  have hlength : f.encode.length = f.head.length + 4 + f.content.encode.length := by
    simp only [Framing.encode, List.length_append, crlf, List.length_cons, List.length_nil]
  have hsize := h.size
  have hbody : f.content.encode.length ≤ maxWire := by
    rw [maxWire]
    omega
  have hstatus : isStatusLine f.status = true :=
    isStatusLine_iff.mpr ⟨f.version, f.reason, rfl, h.reason⟩
  obtain ⟨hambiguous, hcontent⟩ := (contentOf_eq_ok (f := f) hbody h.body).mpr
    ⟨f.content, rfl, rfl, h.announced⟩
  have hcoding : (f.field? "content-encoding").getD (ascii "identity") = ascii "identity" := by
    rcases h.coding with hnone | hsome
    · rw [hnone]
      rfl
    · rw [hsome]
      rfl
  refine timestampBody_eq_ok.mpr ⟨⟨by omega, hsize⟩, f.head.length, Framing.find_head h,
    Nat.not_lt_of_le h.head, ?_⟩
  rw [Framing.take_head, Framing.split_head h, Framing.drop_head]
  refine ⟨hstatus, ?_, _, hheaders, h.media, hcoding, hambiguous, hcontent, h.body⟩
  have := h.count
  simp only [Framing.lines, List.length_cons, List.length_map]
  omega

/-- A response that is decoded is the encoding of a framing with the body that is returned. -/
theorem framing_of_timestampBody {wire body : Bytes} (h : timestampBody wire = .ok body) :
    ∃ f : Framing, (f.WellFormed ∧ f.encode = wire) ∧ f.content.body = body := by
  obtain ⟨⟨-, hsize⟩, boundary, hfind, hhead, hstatus, hcount, fields, hfields, hmedia, hcoding,
    hambiguous, hcontent, hne⟩ := timestampBody_eq_ok.mp h
  obtain ⟨status, rest, hlines⟩ :=
    List.exists_cons_of_ne_nil (split_ne_nil (a := (13 : UInt8)) (b := 10) (wire.take boundary))
  rw [hlines] at hstatus hcount hfields hcontent
  obtain ⟨version, reason, rfl, hreason⟩ := isStatusLine_iff.mp hstatus
  obtain ⟨headers, rfl, hformed, rfl, hnames⟩ := (foldlM_addHeader (by simp)).mp hfields
  rw [List.nil_append] at hmedia hcoding hambiguous hcontent hnames
  obtain ⟨tail, hwire, hle⟩ := eq_of_find hfind
  have hlength : (wire.take boundary).length = boundary := by
    rw [List.length_take, min_eq_left hle]
  have hjoin := intercalate_split (a := (13 : UInt8)) (b := 10) (wire.take boundary)
  have htail : wire.drop (boundary + 4) = tail := by
    rw [hwire]
    exact List.drop_left' (by rw [List.length_append, hlength]; rfl)
  rw [htail] at hcontent
  have hshort : tail.length ≤ maxWire := by
    have := congrArg List.length hwire
    simp only [List.length_append] at this
    omega
  let g : Framing := { version, reason, headers, content := .closed [] }
  obtain ⟨content, hencode, hbody, hannounced⟩ :=
    (contentOf_eq_ok (f := g) hshort hne).mp ⟨hambiguous, hcontent⟩
  rw [hlines] at hjoin
  have hencoded : Framing.encode { version, reason, headers, content } = wire := by
    rw [hwire, ← hencode, ← hjoin]
    simp only [Framing.encode, Framing.head, Framing.status, crlf, List.append_assoc,
      List.cons_append, List.nil_append]
  refine ⟨{ version, reason, headers, content }, ⟨⟨hreason, hformed, ?_, ?_, hmedia, ?_,
    hannounced, hbody ▸ hne, ?_, hencoded ▸ hsize⟩, hencoded⟩, hbody⟩
  · rw [List.map_map] at hnames
    exact hnames
  · rw [List.length_cons, List.length_map] at hcount
    exact Nat.le_of_succ_le_succ (Nat.le_of_not_lt hcount)
  · rcases hlookup : g.field? "content-encoding" with _ | coding
    · exact .inl hlookup
    · rw [show (headers.map Header.field).lookup (ascii "content-encoding") = some coding from
        hlookup] at hcoding
      obtain rfl : coding = ascii "identity" := hcoding
      exact .inr hlookup
  · have : (Framing.head { version, reason, headers, content }).length = boundary := by
      rw [← hlength, ← hjoin]
      rfl
    omega

/-! ## One framing -/

/-- What comes before and after the first delimiter. -/
theorem append_crlf_inj {size size' rest rest' : Bytes} (h : 13 ∉ size) (h' : 13 ∉ size')
    (heq : size ++ crlf ++ rest = size' ++ crlf ++ rest') : size = size' ∧ rest = rest' := by
  have hleft : find crlf (size ++ crlf ++ rest) = some size.length := by
    rw [List.append_assoc, crlf, find_append h, find_of_prefix]
    rfl
  have hright : find crlf (size' ++ crlf ++ rest') = some size'.length := by
    rw [List.append_assoc, crlf, find_append h', find_of_prefix]
    rfl
  rw [heq, hright] at hleft
  have hlength := Option.some.inj hleft
  obtain ⟨hcut, hrest⟩ := List.append_inj heq (by simp only [List.length_append]; omega)
  exact ⟨List.append_cancel_right hcut, hrest⟩

/-- Chunks and their last chunk are determined by what they are written as. -/
theorem chunked_injective {chunks chunks' : List Chunk} {last last' : Bytes}
    (h : ∀ c ∈ chunks, c.WellFormed) (h' : ∀ c ∈ chunks', c.WellFormed)
    (hlast : isChunkSize last = true ∧ intOf 16 last = 0)
    (hlast' : isChunkSize last' = true ∧ intOf 16 last' = 0)
    (heq : (Content.chunked chunks last).encode = (Content.chunked chunks' last').encode) :
    chunks = chunks' ∧ last = last' := by
  have hnil : ∀ last : Bytes, (Content.chunked [] last).encode = last ++ crlf ++ crlf :=
    fun _ => rfl
  have hcons : ∀ (c : Chunk) cs last, (Content.chunked (c :: cs) last).encode =
      c.size ++ crlf ++ (c.data ++ crlf ++ (Content.chunked cs last).encode) := by
    intro c cs last
    simp [Content.encode, Chunk.encode]
  -- A chunk of its own size is not the last one, whose size is zero.
  have hclash : ∀ (c : Chunk) (size : Bytes), c.WellFormed → intOf 16 size = 0 → c.size ≠ size := by
    rintro c size ⟨-, hlength, hne⟩ hzero rfl
    exact hne (List.length_eq_zero_iff.mp (hlength.symm.trans hzero))
  induction chunks generalizing chunks' with
  | nil =>
    cases chunks' with
    | nil =>
      rw [hnil, hnil] at heq
      exact ⟨rfl, (append_crlf_inj (chunkSize_clean hlast.1) (chunkSize_clean hlast'.1) heq).1⟩
    | cons c chunks' =>
      have hc := h' c List.mem_cons_self
      rw [hnil, hcons] at heq
      have hsize := append_crlf_inj (chunkSize_clean hlast.1) (chunkSize_clean hc.1) heq
      exact absurd hsize.1.symm (hclash c last hc hlast.2)
  | cons c chunks ih =>
    have hc := h c List.mem_cons_self
    cases chunks' with
    | nil =>
      rw [hnil, hcons] at heq
      have hsize := append_crlf_inj (chunkSize_clean hc.1) (chunkSize_clean hlast'.1) heq
      exact absurd hsize.1 (hclash c last' hc hlast'.2)
    | cons c' chunks' =>
      have hc' := h' c' List.mem_cons_self
      rw [hcons, hcons] at heq
      obtain ⟨hsize, hrest⟩ := append_crlf_inj (chunkSize_clean hc.1) (chunkSize_clean hc'.1) heq
      have hlength : c.data.length = c'.data.length := by
        rw [← hc.2.1, ← hc'.2.1, hsize]
      rw [List.append_assoc, List.append_assoc] at hrest
      obtain ⟨hdata, hrest⟩ := List.append_inj hrest hlength
      obtain ⟨rfl, rfl⟩ := ih (fun d hd => h d (List.mem_cons_of_mem _ hd))
        (fun d hd => h' d (List.mem_cons_of_mem _ hd)) (List.append_cancel_left hrest)
      obtain ⟨size, data⟩ := c
      obtain ⟨size', data'⟩ := c'
      obtain rfl : size = size' := hsize
      obtain rfl : data = data' := hdata
      exact ⟨rfl, rfl⟩

theorem Version.text_injective {version version' : Version} {rest rest' : Bytes}
    (h : version.text ++ rest = version'.text ++ rest') : version = version' ∧ rest = rest' := by
  have hlength : version.text.length = version'.text.length := by
    cases version <;> cases version' <;> decide +kernel
  obtain ⟨htext, hrest⟩ := List.append_inj h hlength
  refine ⟨?_, hrest⟩
  revert htext
  cases version <;> cases version' <;> decide +kernel

theorem status_injective {f g : Framing} (h : f.status = g.status) :
    f.version = g.version ∧ f.reason = g.reason := by
  rw [Framing.status, Framing.status, List.append_assoc, List.append_assoc] at h
  obtain ⟨hversion, hrest⟩ := Version.text_injective h
  exact ⟨hversion, List.append_cancel_left hrest⟩

theorem headers_injective {headers headers' : List Header} (h : ∀ k ∈ headers, k.WellFormed)
    (h' : ∀ k ∈ headers', k.WellFormed)
    (heq : headers.map Header.line = headers'.map Header.line) : headers = headers' := by
  induction headers generalizing headers' with
  | nil => exact (List.map_eq_nil_iff.mp heq.symm).symm
  | cons k headers ih =>
    obtain ⟨k', rest, rfl, hline, hrest⟩ := List.map_eq_cons_iff.mp heq.symm
    rw [Header.line_injective (h k List.mem_cons_self) (h' k' List.mem_cons_self) hline.symm,
      ih (fun l hl => h l (List.mem_cons_of_mem _ hl))
        (fun l hl => h' l (List.mem_cons_of_mem _ hl)) hrest.symm]

/-- The headers decide between the contents that are written the same way. -/
theorem content_injective {version : Version} {reason : Bytes} {headers : List Header}
    {content content' : Content} (h : Framing.Announced ⟨version, reason, headers, content⟩)
    (h' : Framing.Announced ⟨version, reason, headers, content'⟩)
    (heq : content.encode = content'.encode) : content = content' := by
  cases content with
  | closed body =>
    cases content' with
    | closed body' => rw [show body = body' from heq]
    | sized body' => exact absurd (h.2.symm.trans h'.2) (by simp)
    | chunked chunks last => exact absurd (h.1.symm.trans h'.2.1) (by simp)
  | sized body =>
    cases content' with
    | closed body' => exact absurd (h'.2.symm.trans h.2) (by simp)
    | sized body' => rw [show body = body' from heq]
    | chunked chunks last => exact absurd (h.1.symm.trans h'.2.1) (by simp)
  | chunked chunks last =>
    cases content' with
    | closed body' => exact absurd (h'.1.symm.trans h.2.1) (by simp)
    | sized body' => exact absurd (h'.1.symm.trans h.2.1) (by simp)
    | chunked chunks' last' =>
      obtain ⟨-, -, -, -, hall, hlast⟩ := h
      obtain ⟨-, -, -, -, hall', hlast'⟩ := h'
      obtain ⟨rfl, rfl⟩ := chunked_injective hall hall' hlast hlast' heq
      rfl

/-- No response is the encoding of two framings. -/
theorem encode_injective {f g : Framing} (hf : f.WellFormed) (hg : g.WellFormed)
    (heq : f.encode = g.encode) : f = g := by
  have hhead : f.head.length = g.head.length := by
    have hfind := Framing.find_head hf
    rw [heq, Framing.find_head hg] at hfind
    exact (Option.some.inj hfind).symm
  have hheads : f.head = g.head := by
    have htake := Framing.take_head (f := f)
    rw [heq, hhead, Framing.take_head] at htake
    exact htake.symm
  have hlines : f.lines = g.lines := by
    rw [← Framing.split_head hf, ← Framing.split_head hg, hheads]
  have hcontent : f.content.encode = g.content.encode := by
    rw [← Framing.drop_head, ← Framing.drop_head, heq, hhead]
  obtain ⟨hstatus, hheaders⟩ := List.cons.inj hlines
  obtain ⟨hversion, hreason⟩ := status_injective hstatus
  have hheaders := headers_injective hf.headers hg.headers hheaders
  have hannounced := hf.announced
  have hannounced' := hg.announced
  obtain ⟨version, reason, headers, content⟩ := f
  obtain ⟨version', reason', headers', content'⟩ := g
  obtain rfl : version = version' := hversion
  obtain rfl : reason = reason' := hreason
  obtain rfl : headers = headers' := hheaders
  obtain rfl := content_injective hannounced hannounced' hcontent
  rfl

/-- A decoder for every framing and a framing for every response : the encoding of a framing
decodes to its body, and a response that is decoded is the encoding of exactly one framing, whose
body is returned. -/
theorem timestamp_framing :
    (∀ f : Framing, f.WellFormed → timestampBody f.encode = .ok f.content.body) ∧
      ∀ wire body, timestampBody wire = .ok body →
        ∃ f : Framing, (f.WellFormed ∧ f.encode = wire) ∧ f.content.body = body ∧
          ∀ g : Framing, g.WellFormed → g.encode = wire → g = f := by
  refine ⟨fun f hf => timestampBody_encode hf, fun wire body h => ?_⟩
  obtain ⟨f, ⟨hf, hencode⟩, hbody⟩ := framing_of_timestampBody h
  exact ⟨f, ⟨hf, hencode⟩, hbody, fun g hg hwire =>
    encode_injective hg hf (hwire.trans hencode.symm)⟩

/-- A response of version 1.1 in two chunks. -/
def sampleFraming : Framing where
  version := .http11
  reason := ascii "OK"
  headers := [⟨ascii "Content-Type", ascii " application/timestamp-reply"⟩,
    ⟨ascii "Transfer-Encoding", ascii " chunked"⟩]
  content := .chunked [⟨ascii "2", ascii "ab"⟩, ⟨ascii "001", ascii "c"⟩] (ascii "0")

theorem sampleFraming_wellFormed : sampleFraming.WellFormed where
  reason := by decide +kernel
  headers := by
    intro h hmem
    rcases List.mem_pair.mp hmem with rfl | rfl <;>
      exact ⟨by decide +kernel, by decide +kernel, by decide +kernel⟩
  names := by decide +kernel
  count := by decide +kernel
  media := by decide +kernel
  coding := by decide +kernel
  announced := by
    refine ⟨rfl, by decide +kernel, by decide +kernel, by decide +kernel, ?_, by decide +kernel⟩
    intro c hmem
    rcases List.mem_pair.mp hmem with rfl | rfl <;>
      exact ⟨by decide +kernel, by decide +kernel, by decide +kernel⟩
  body := by decide +kernel
  head := by decide +kernel
  size := by decide +kernel

/-- The two chunks are decoded to their data, and only they are written as that response. -/
theorem timestamp_framing_chunks :
    timestampBody sampleFraming.encode = .ok (ascii "abc") ∧
      ∃ f : Framing, (f.WellFormed ∧ f.encode = sampleFraming.encode) ∧
        f.content.body = ascii "abc" ∧
        ∀ g : Framing, g.WellFormed → g.encode = sampleFraming.encode → g = f := by
  have hbody : sampleFraming.content.body = ascii "abc" := by decide +kernel
  have hdecoded := timestamp_framing.1 sampleFraming sampleFraming_wellFormed
  rw [hbody] at hdecoded
  exact ⟨hdecoded, timestamp_framing.2 _ _ hdecoded⟩

end Etzio.Http
