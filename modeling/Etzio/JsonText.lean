import Mathlib
import Etzio.CheckedRun

/-!
# JSON texts

A JSON value, its compact text with sorted members (`dumps`) and a reader of texts with
hooks (`loads`), in the style of a standard library's JSON module. The text of a value whose
members are sorted reads back as the value (`parseValue_dumps`), and the text of what the
reader returns is no longer than what it read (`parseValue_size`).

Strings hold Unicode scalars and numbers are integers : the hooks refuse every other number,
and an unpaired surrogate escape is refused.
-/

open CheckedRun

namespace JsonText

/-! ## Values -/

/-- A JSON value. An object is the list of its members. -/
inductive Json
  | null
  | bool (value : Bool)
  | int (value : ℤ)
  | str (value : String)
  | arr (items : List Json)
  | obj (members : List (String × Json))

/-- Induction on a value through the items of an array and the members of an object. -/
theorem Json.nested {motive : Json → Prop} (null : motive .null)
    (bool : ∀ b, motive (.bool b)) (int : ∀ n, motive (.int n)) (str : ∀ s, motive (.str s))
    (arr : ∀ items, (∀ v ∈ items, motive v) → motive (.arr items))
    (obj : ∀ members, (∀ m ∈ members, motive m.2) → motive (.obj members)) (v : Json) :
    motive v := by
  refine Json.rec (motive_1 := motive) (motive_2 := fun items => ∀ v ∈ items, motive v)
    (motive_3 := fun members => ∀ m ∈ members, motive m.2) (motive_4 := fun m => motive m.2)
    null bool int str arr obj ?_ ?_ ?_ ?_ ?_ v
  · simp
  · intro v items hv hitems
    simpa using ⟨hv, hitems⟩
  · simp
  · intro m members hm hmembers
    exact List.forall_mem_cons.mpr ⟨hm, hmembers⟩
  · exact fun _ _ h => h

/-! ## Texts -/

/-- The length of a text in UTF-8. -/
def textSize (cs : List Char) : ℕ := (cs.map Char.utf8Size).sum

/-- `ESCAPE_DCT` : the short escapes of a string, and hexadecimal ones for the other control
characters. -/
def escapeChar (c : Char) : List Char :=
  if c = '"' then ['\\', '"']
  else if c = '\\' then ['\\', '\\']
  else if c = '\n' then ['\\', 'n']
  else if c = '\r' then ['\\', 'r']
  else if c = '\t' then ['\\', 't']
  else if c = '\x08' then ['\\', 'b']
  else if c = '\x0c' then ['\\', 'f']
  else if c.toNat < 32 then
    ['\\', 'u', '0', '0', Nat.digitChar (c.toNat / 16), Nat.digitChar (c.toNat % 16)]
  else [c]

def dumpsString (s : String) : List Char := '"' :: (s.toList.flatMap escapeChar ++ ['"'])

def dumpsInt : ℤ → List Char
  | .ofNat n => Nat.toDigits 10 n
  | .negSucc n => '-' :: Nat.toDigits 10 (n + 1)

/-- Texts with a comma between each two. -/
def separated : List (List Char) → List Char
  | [] => []
  | [text] => text
  | text :: texts => text ++ ',' :: separated texts

/-- Members in the order of their keys. -/
def sortMembers {α : Type} (members : List (String × α)) : List (String × α) :=
  members.insertionSort fun a b => a.1 ≤ b.1

mutual

/-- `json.dumps` without spaces and with sorted members. -/
def dumps : Json → List Char
  | .null => ['n', 'u', 'l', 'l']
  | .bool true => ['t', 'r', 'u', 'e']
  | .bool false => ['f', 'a', 'l', 's', 'e']
  | .int n => dumpsInt n
  | .str s => dumpsString s
  | .arr items => '[' :: (separated (dumpsItems items) ++ [']'])
  | .obj members =>
    '{' :: (separated ((sortMembers (dumpsMembers members)).map fun m =>
      dumpsString m.1 ++ ':' :: m.2) ++ ['}'])

def dumpsItems : List Json → List (List Char)
  | [] => []
  | v :: items => dumps v :: dumpsItems items

def dumpsMembers : List (String × Json) → List (String × List Char)
  | [] => []
  | (key, v) :: members => (key, dumps v) :: dumpsMembers members

end

/-! ## The reader -/

/-- What a reader of JSON texts does with the tokens, with an object's members and with a text
outside the grammar. -/
structure Hooks (ε : Type) where
  invalid : ε
  surrogate : ε
  parseInt : String → Except ε ℤ
  parseFloat : String → ε
  parseConstant : String → ε
  objectPairs : List (String × Json) → Except ε (List (String × Json))

variable {ε : Type} (h : Hooks ε)

def isWhitespace (c : Char) : Bool := c = ' ' || c = '\t' || c = '\n' || c = '\r'

def skipSpace (cs : List Char) : List Char := cs.dropWhile isWhitespace

def hexValue (c : Char) : Option ℕ :=
  if '0' ≤ c ∧ c ≤ '9' then some (c.toNat - 48)
  else if 'a' ≤ c ∧ c ≤ 'f' then some (c.toNat - 87)
  else if 'A' ≤ c ∧ c ≤ 'F' then some (c.toNat - 55)
  else none

/-- Four hexadecimal digits. -/
def scanHex : List Char → Option (ℕ × List Char)
  | a :: b :: c :: d :: rest => do
    let a ← hexValue a
    let b ← hexValue b
    let c ← hexValue c
    let d ← hexValue d
    return (((a * 16 + b) * 16 + c) * 16 + d, rest)
  | _ => none

/-- The character of a hexadecimal escape, or of two that form a surrogate pair. -/
def scanUnicode (cs : List Char) : Except ε (Char × List Char) :=
  match scanHex cs with
  | none => .error h.invalid
  | some (high, rest) =>
    if 0xD800 ≤ high ∧ high < 0xDC00 then
      match rest with
      | '\\' :: 'u' :: rest =>
        match scanHex rest with
        | none => .error h.invalid
        | some (low, rest) =>
          if 0xDC00 ≤ low ∧ low < 0xE000 then
            .ok (Char.ofNat (0x10000 + (high - 0xD800) * 0x400 + (low - 0xDC00)), rest)
          else .error h.surrogate
      | _ => .error h.surrogate
    else if 0xDC00 ≤ high ∧ high < 0xE000 then .error h.surrogate
    else .ok (Char.ofNat high, rest)

def unescape (c : Char) : Option Char :=
  if c = '"' ∨ c = '\\' ∨ c = '/' then some c
  else if c = 'n' then some '\n'
  else if c = 'r' then some '\r'
  else if c = 't' then some '\t'
  else if c = 'b' then some '\x08'
  else if c = 'f' then some '\x0c'
  else none

/-- One character of a string, or its closing quote. -/
def scanChar : List Char → Except ε (Option Char × List Char)
  | [] => .error h.invalid
  | c :: rest =>
    if c = '"' then .ok (none, rest)
    else if c = '\\' then
      match rest with
      | [] => .error h.invalid
      | e :: rest =>
        if e = 'u' then do
          let (c, rest) ← scanUnicode h rest
          return (some c, rest)
        else
          match unescape e with
          | none => .error h.invalid
          | some c => .ok (some c, rest)
    else if c.toNat < 32 then .error h.invalid
    else .ok (some c, rest)

/-- `scanstring` : the characters up to the closing quote. -/
def scanString : ℕ → List Char → Except ε (List Char × List Char)
  | 0, _ => .error h.invalid
  | fuel + 1, cs => do
    let (c, rest) ← scanChar h cs
    match c with
    | none => return ([], rest)
    | some c =>
      let (s, rest) ← scanString fuel rest
      return (c :: s, rest)

/-- The digits of an integer, without leading zeros. -/
def scanDigits : List Char → Option (List Char × List Char)
  | [] => none
  | c :: rest =>
    if c = '0' then some ([c], rest)
    else if c.isDigit then some (c :: rest.takeWhile Char.isDigit, rest.dropWhile Char.isDigit)
    else none

def scanFraction (cs : List Char) : List Char × List Char :=
  match cs with
  | '.' :: rest =>
    if rest.takeWhile Char.isDigit = [] then ([], cs)
    else ('.' :: rest.takeWhile Char.isDigit, rest.dropWhile Char.isDigit)
  | _ => ([], cs)

def scanSign (cs : List Char) : List Char × List Char :=
  match cs with
  | '-' :: rest => (['-'], rest)
  | '+' :: rest => (['+'], rest)
  | _ => ([], cs)

def scanExponent (cs : List Char) : List Char × List Char :=
  match cs with
  | c :: rest =>
    if c = 'e' ∨ c = 'E' then
      let (sign, digits) := scanSign rest
      if digits.takeWhile Char.isDigit = [] then ([], cs)
      else (c :: (sign ++ digits.takeWhile Char.isDigit), digits.dropWhile Char.isDigit)
    else ([], cs)
  | [] => ([], cs)

/-- The rest of a number after its sign. -/
def scanNumber (sign cs : List Char) : Except ε (Json × List Char) :=
  match scanDigits cs with
  | none => .error h.invalid
  | some (digits, rest) =>
    let (fraction, rest') := scanFraction rest
    let (exponent, _) := scanExponent rest'
    if fraction = [] ∧ exponent = [] then do
      let n ← h.parseInt (String.ofList (sign ++ digits))
      return (.int n, rest)
    else .error (h.parseFloat (String.ofList (sign ++ digits ++ fraction ++ exponent)))

/-- The rest of a literal. -/
def scanLiteral (word : List Char) (v : Json) (cs : List Char) : Except ε (Json × List Char) :=
  if word <+: cs then .ok (v, cs.drop word.length) else .error h.invalid

/-- The rest of a constant outside the grammar. -/
def scanConstant (word : List Char) (name : String) (cs : List Char) : ε :=
  if word <+: cs then h.parseConstant name else h.invalid

/-- Elements with a comma between each two, up to the closing character. -/
def parseSequence {α : Type} (element : List Char → Except ε (α × List Char)) (close : Char) :
    ℕ → List Char → Except ε (List α × List Char)
  | 0, _ => .error h.invalid
  | fuel + 1, cs => do
    let (x, rest) ← element cs
    match skipSpace rest with
    | [] => .error h.invalid
    | c :: rest =>
      if c = close then return ([x], rest)
      else if c = ',' then do
        let (xs, rest) ← parseSequence element close fuel (skipSpace rest)
        return (x :: xs, rest)
      else .error h.invalid

/-- The elements between brackets, the opening one read. -/
def parseBrackets {α : Type} (element : List Char → Except ε (α × List Char)) (close : Char)
    (cs : List Char) : Except ε (List α × List Char) :=
  match skipSpace cs with
  | [] => .error h.invalid
  | c :: rest =>
    if c = close then .ok ([], rest) else parseSequence h element close cs.length (c :: rest)

/-- A member of an object. -/
def parseMember (value : List Char → Except ε (Json × List Char)) :
    List Char → Except ε ((String × Json) × List Char)
  | [] => .error h.invalid
  | c :: rest =>
    if c = '"' then do
      let (key, rest) ← scanString h rest.length rest
      match skipSpace rest with
      | [] => .error h.invalid
      | c :: rest =>
        if c = ':' then do
          let (v, rest) ← value (skipSpace rest)
          return ((String.ofList key, v), rest)
        else .error h.invalid
    else .error h.invalid

/-- `scan_once` : a value at the start of a text. -/
def parseValue : ℕ → List Char → Except ε (Json × List Char)
  | 0, _ => .error h.invalid
  | _, [] => .error h.invalid
  | fuel + 1, c :: rest =>
    if c = '"' then do
      let (s, rest) ← scanString h rest.length rest
      return (.str (String.ofList s), rest)
    else if c = '{' then do
      let (members, rest) ← parseBrackets h (parseMember h (parseValue fuel)) '}' rest
      let members ← h.objectPairs members
      return (.obj members, rest)
    else if c = '[' then do
      let (items, rest) ← parseBrackets h (parseValue fuel) ']' rest
      return (.arr items, rest)
    else if c = 'n' then scanLiteral h ['u', 'l', 'l'] .null rest
    else if c = 't' then scanLiteral h ['r', 'u', 'e'] (.bool true) rest
    else if c = 'f' then scanLiteral h ['a', 'l', 's', 'e'] (.bool false) rest
    else if c = 'N' then .error (scanConstant h ['a', 'N'] "NaN" rest)
    else if c = 'I' then
      .error (scanConstant h ['n', 'f', 'i', 'n', 'i', 't', 'y'] "Infinity" rest)
    else if c = '-' then
      if ['I', 'n', 'f', 'i', 'n', 'i', 't', 'y'] <+: rest then
        .error (h.parseConstant "-Infinity")
      else scanNumber h ['-'] rest
    else scanNumber h [] (c :: rest)

/-- `json.loads` : one value with nothing but spaces around it. -/
def loads (text : List Char) : Except ε Json := do
  let (v, rest) ← parseValue h (text.length + 1) (skipSpace text)
  if skipSpace rest = [] then return v else .error h.invalid

/-! ## Strings -/

theorem hexValue_digitChar : ∀ n < 16, hexValue (Nat.digitChar n) = some n := by decide

variable {h}

theorem scanUnicode_control {c : Char} (hc : c.toNat < 32) (rest : List Char) :
    scanUnicode h ('0' :: '0' :: Nat.digitChar (c.toNat / 16) :: Nat.digitChar (c.toNat % 16) ::
      rest) = .ok (c, rest) := by
  have hzero : hexValue '0' = some 0 := rfl
  have hhigh := hexValue_digitChar (c.toNat / 16) (by omega)
  have hlow := hexValue_digitChar (c.toNat % 16) (by omega)
  have hn : ((0 * 16 + 0) * 16 + c.toNat / 16) * 16 + c.toNat % 16 = c.toNat := by omega
  simp only [scanUnicode, scanHex, hzero, hhigh, hlow, Option.bind_eq_bind, Option.bind_some,
    Option.pure_def, hn]
  rw [if_neg (by omega), if_neg (by omega), Char.ofNat_toNat]

/-- An escaped character reads back. -/
theorem scanChar_escape (c : Char) (rest : List Char) :
    scanChar h (escapeChar c ++ rest) = .ok (some c, rest) := by
  unfold escapeChar
  split_ifs with h₁ h₂ h₃ h₄ h₅ h₆ h₇ h₈
  · subst h₁; simp [scanChar, unescape]
  · subst h₂; simp [scanChar, unescape]
  · subst h₃; simp [scanChar, unescape]
  · subst h₄; simp [scanChar, unescape]
  · subst h₅; simp [scanChar, unescape]
  · subst h₆; simp [scanChar, unescape]
  · subst h₇; simp [scanChar, unescape]
  · simp only [scanChar, List.cons_append, List.nil_append, if_true]
    rw [if_neg (by decide), scanUnicode_control h₈]
    rfl
  · simp [scanChar, h₁, h₂, h₈]

/-- An escaped string reads back. -/
theorem scanString_escape (s rest : List Char) {fuel : ℕ} (hfuel : s.length < fuel) :
    scanString h fuel (s.flatMap escapeChar ++ '"' :: rest) = .ok (s, rest) := by
  induction s generalizing fuel with
  | nil =>
    obtain ⟨fuel, rfl⟩ := Nat.exists_eq_succ_of_ne_zero (Nat.ne_of_gt hfuel)
    simp [scanString, scanChar, bind, Except.bind, pure, Except.pure]
  | cons c s ih =>
    obtain ⟨fuel, rfl⟩ := Nat.exists_eq_succ_of_ne_zero (Nat.ne_of_gt (Nat.zero_lt_of_lt hfuel))
    have hs : scanString h fuel (s.flatMap escapeChar ++ '"' :: rest) = .ok (s, rest) :=
      ih (by simpa using hfuel)
    rw [List.flatMap_cons, List.append_assoc, scanString, scanChar_escape]
    simp [bind, Except.bind, pure, Except.pure, hs]

theorem length_flatMap_escape (s : List Char) : s.length ≤ (s.flatMap escapeChar).length := by
  induction s with
  | nil => simp
  | cons c s ih =>
    have hc : 0 < (escapeChar c).length := by
      unfold escapeChar
      split_ifs <;> simp
    simp only [List.flatMap_cons, List.length_append, List.length_cons]
    omega

/-- The text of a string reads back after its opening quote. -/
theorem scanString_dumps (s : String) (rest : List Char) :
    scanString h (s.toList.flatMap escapeChar ++ '"' :: rest).length
      (s.toList.flatMap escapeChar ++ '"' :: rest) = .ok (s.toList, rest) := by
  refine scanString_escape _ _ ?_
  have := length_flatMap_escape s.toList
  simp only [List.length_append, List.length_cons]
  omega

/-! ## Integers -/

/-- The text after a value. -/
def Closes (rest : List Char) : Prop := ∀ c ∈ rest.head?, c = ',' ∨ c = ']' ∨ c = '}'

theorem takeWhile_digits {ds rest : List Char} (hds : ∀ c ∈ ds, c.isDigit) (hrest : Closes rest) :
    (ds ++ rest).takeWhile Char.isDigit = ds ∧ (ds ++ rest).dropWhile Char.isDigit = rest := by
  have hstop : rest.takeWhile Char.isDigit = [] ∧ rest.dropWhile Char.isDigit = rest := by
    cases rest with
    | nil => simp
    | cons c rest =>
      rcases hrest c rfl with rfl | rfl | rfl <;> simp [Char.isDigit]
  rw [List.takeWhile_append_of_pos hds, List.dropWhile_append_of_pos hds, hstop.1, hstop.2]
  simp

theorem digitChar_ne_zero : ∀ n < 10, 0 < n → Nat.digitChar n ≠ '0' := by decide

/-- A positive number does not start with a zero. -/
theorem toDigits_head {n : ℕ} (hn : 0 < n) :
    ∃ c ds, Nat.toDigits 10 n = c :: ds ∧ c ≠ '0' := by
  induction n using Nat.strong_induction_on with
  | _ n ih =>
    rcases Nat.lt_or_ge n 10 with hlt | hge
    · exact ⟨_, [], Nat.toDigits_of_lt_base hlt, digitChar_ne_zero n hlt hn⟩
    · obtain ⟨c, ds, hds, hc⟩ := ih (n / 10) (by omega) (by omega)
      rw [Nat.toDigits_of_base_le (by decide) hge, hds]
      exact ⟨c, _, rfl, hc⟩

theorem isDigit_toDigits (n : ℕ) : ∀ c ∈ Nat.toDigits 10 n, c.isDigit := fun _ hc =>
  Nat.isDigit_of_mem_toDigits (by decide) (by decide) hc

theorem scanDigits_toDigits (n : ℕ) {rest : List Char} (hrest : Closes rest) :
    scanDigits (Nat.toDigits 10 n ++ rest) = some (Nat.toDigits 10 n, rest) := by
  rcases Nat.eq_zero_or_pos n with rfl | hn
  · simp [scanDigits]
  · obtain ⟨c, ds, hds, hc⟩ := toDigits_head hn
    have hdigits := isDigit_toDigits n
    rw [hds] at hdigits ⊢
    obtain ⟨htake, hdrop⟩ := takeWhile_digits (fun x hx => hdigits x (List.mem_cons_of_mem _ hx))
      hrest
    simp [scanDigits, hc, hdigits c (by simp), htake, hdrop]

/-- An integer's digits before the end of a value are neither a fraction nor an exponent. -/
theorem scanNumber_toDigits {sign : List Char} (n : ℕ) {rest : List Char} (hrest : Closes rest) :
    scanNumber h sign (Nat.toDigits 10 n ++ rest) =
      (h.parseInt (String.ofList (sign ++ Nat.toDigits 10 n))).map fun n => (.int n, rest) := by
  have hfraction : scanFraction rest = ([], rest) := by
    cases rest with
    | nil => rfl
    | cons c rest => rcases hrest c rfl with rfl | rfl | rfl <;> rfl
  have hexponent : (scanExponent rest).1 = [] := by
    cases rest with
    | nil => rfl
    | cons c rest => rcases hrest c rfl with rfl | rfl | rfl <;> rfl
  simp only [scanNumber, scanDigits_toDigits n hrest, hfraction, hexponent, and_self, if_true]
  cases h.parseInt (String.ofList (sign ++ Nat.toDigits 10 n)) <;> rfl

/-! ## Sequences -/

/-- The start of a value or of a member : no space and no closing bracket. -/
def Starts (cs : List Char) : Prop :=
  ∃ c rest, cs = c :: rest ∧ isWhitespace c = false ∧ c ≠ ']' ∧ c ≠ '}'

theorem Starts.append {cs : List Char} (hc : Starts cs) (rest : List Char) :
    Starts (cs ++ rest) := by
  obtain ⟨c, cs, rfl, hrest⟩ := hc
  exact ⟨c, cs ++ rest, rfl, hrest⟩

theorem Starts.skipSpace {cs : List Char} (hc : Starts cs) : skipSpace cs = cs := by
  obtain ⟨c, cs, rfl, hspace, -⟩ := hc
  simp [JsonText.skipSpace, hspace]

theorem Starts.length_pos {cs : List Char} (hc : Starts cs) : 0 < cs.length := by
  obtain ⟨c, cs, rfl, -⟩ := hc
  simp

theorem starts_separated {texts : List (List Char)} (hne : texts ≠ [])
    (hstarts : ∀ text ∈ texts, Starts text) : Starts (separated texts) := by
  match texts, hne with
  | [text], _ => exact hstarts text (by simp)
  | text :: next :: texts, _ => exact (hstarts text (by simp)).append _

theorem length_separated {texts : List (List Char)} (hstarts : ∀ text ∈ texts, Starts text) :
    texts.length ≤ (separated texts).length := by
  induction texts with
  | nil => simp
  | cons text texts ih =>
    have htext := (hstarts text (by simp)).length_pos
    have hrest := ih fun t ht => hstarts t (List.mem_cons_of_mem _ ht)
    cases texts with
    | nil =>
      simp only [separated, List.length_singleton]
      omega
    | cons next texts =>
      simp only [separated, List.length_append, List.length_cons] at hrest ⊢
      omega

theorem length_le_separated {texts : List (List Char)} {text : List Char} (hmem : text ∈ texts) :
    text.length ≤ (separated texts).length := by
  induction texts with
  | nil => simp at hmem
  | cons t texts ih =>
    cases texts with
    | nil =>
      obtain rfl : text = t := by simpa using hmem
      rfl
    | cons next texts =>
      simp only [separated, List.length_append, List.length_cons]
      rcases List.mem_cons.mp hmem with rfl | hmem
      · omega
      · have := ih hmem
        omega

/-- Elements that read back, separated by commas, read back up to the closing bracket. -/
theorem parseSequence_separated {α : Type} {element : List Char → Except ε (α × List Char)}
    {text : α → List Char} {close : Char} (hclose : close = ']' ∨ close = '}') {xs : List α}
    (hne : xs ≠ []) (hstarts : ∀ x ∈ xs, Starts (text x))
    (helement : ∀ x ∈ xs, ∀ rest, Closes rest → element (text x ++ rest) = .ok (x, rest))
    {fuel : ℕ} (hfuel : xs.length ≤ fuel) (rest : List Char) :
    parseSequence h element close fuel (separated (xs.map text) ++ close :: rest) =
      .ok (xs, rest) := by
  induction xs generalizing fuel with
  | nil => exact absurd rfl hne
  | cons x xs ih =>
    obtain ⟨fuel, rfl⟩ := Nat.exists_eq_succ_of_ne_zero (Nat.ne_of_gt (Nat.zero_lt_of_lt hfuel))
    have hspace : isWhitespace close = false := by rcases hclose with rfl | rfl <;> rfl
    have hcomma : isWhitespace ',' = false := rfl
    have hne' : ',' ≠ close := by rcases hclose with rfl | rfl <;> decide
    cases xs with
    | nil =>
      have hx := helement x (by simp) (close :: rest) (by
        rintro c hc
        obtain rfl : close = c := by simpa using hc
        exact Or.inr hclose)
      rw [List.map_singleton, separated, parseSequence, bind_of_ok hx]
      simp [skipSpace, hspace, pure, Except.pure]
    | cons y xs =>
      have hx := helement x (by simp) (',' :: (separated ((y :: xs).map text) ++ close :: rest))
        (by
          rintro c hc
          obtain rfl : ',' = c := by simpa using hc
          exact Or.inl rfl)
      have hlength : (y :: xs).length ≤ fuel := by simpa using hfuel
      have hrest := ih (by simp) (fun z hz => hstarts z (List.mem_cons_of_mem _ hz))
        (fun z hz => helement z (List.mem_cons_of_mem _ hz)) hlength
      have hskip : skipSpace (separated ((y :: xs).map text) ++ close :: rest) =
          separated ((y :: xs).map text) ++ close :: rest :=
        ((starts_separated (by simp) (by
          simpa using fun z hz => hstarts z (List.mem_cons_of_mem _ hz))).append _).skipSpace
      rw [List.map_cons, List.map_cons, separated, List.append_assoc, List.cons_append,
        parseSequence, ← List.map_cons, bind_of_ok hx]
      · simp only [skipSpace, List.dropWhile_cons, hcomma, Bool.false_eq_true, if_false, hne',
          if_true]
        rw [← skipSpace, hskip, bind_of_ok hrest]
        rfl
      · simp

/-- A bracketed sequence of elements that read back reads back. -/
theorem parseBrackets_separated {α : Type} {element : List Char → Except ε (α × List Char)}
    {text : α → List Char} {close : Char} (hclose : close = ']' ∨ close = '}') {xs : List α}
    (hstarts : ∀ x ∈ xs, Starts (text x))
    (helement : ∀ x ∈ xs, ∀ rest, Closes rest → element (text x ++ rest) = .ok (x, rest))
    (rest : List Char) :
    parseBrackets h element close (separated (xs.map text) ++ close :: rest) = .ok (xs, rest) := by
  have hspace : isWhitespace close = false := by rcases hclose with rfl | rfl <;> rfl
  rcases List.eq_nil_or_concat xs with rfl | ⟨_, _, hcat⟩
  · simp [parseBrackets, separated, skipSpace, hspace]
  · have hne : xs ≠ [] := by simp [hcat]
    have htexts : ∀ t ∈ xs.map text, Starts t := by simpa using hstarts
    have hall := (starts_separated (by simpa using hne) htexts).append (close :: rest)
    have hfuel := length_separated htexts
    obtain ⟨c, cs, heq, -, hc⟩ := id hall
    have hne' : c ≠ close := by rcases hclose with rfl | rfl <;> simp [hc]
    rw [parseBrackets, hall.skipSpace, heq]
    simp only [hne', if_false]
    rw [← heq]
    refine parseSequence_separated hclose hne hstarts helement ?_ rest
    simp only [List.length_map] at hfuel
    simp only [List.length_append]
    omega

/-! ## Values read back -/

/-- A value whose members are sorted and whose tokens and members the hooks leave alone. -/
inductive Readable (h : Hooks ε) : Json → Prop
  | null : Readable h .null
  | bool (b : Bool) : Readable h (.bool b)
  | int {n : ℤ} (token : h.parseInt (String.ofList (dumpsInt n)) = .ok n) : Readable h (.int n)
  | str (s : String) : Readable h (.str s)
  | arr {items : List Json} (values : ∀ v ∈ items, Readable h v) : Readable h (.arr items)
  | obj {members : List (String × Json)} (sorted : members.Pairwise fun a b => a.1 ≤ b.1)
      (pairs : h.objectPairs members = .ok members) (values : ∀ m ∈ members, Readable h m.2) :
      Readable h (.obj members)

theorem dumpsItems_eq_map (items : List Json) : dumpsItems items = items.map dumps := by
  induction items with
  | nil => simp [dumpsItems]
  | cons v items ih => simp [dumpsItems, ih]

theorem dumpsMembers_eq_map (members : List (String × Json)) :
    dumpsMembers members = members.map fun m => (m.1, dumps m.2) := by
  induction members with
  | nil => simp [dumpsMembers]
  | cons m members ih => simp [dumpsMembers, ih]

/-- The text of a member. -/
def dumpsMember (m : String × Json) : List Char := dumpsString m.1 ++ ':' :: dumps m.2

/-- Sorted members are written in their own order. -/
theorem dumps_obj_of_sorted {members : List (String × Json)}
    (hsorted : members.Pairwise fun a b => a.1 ≤ b.1) :
    dumps (.obj members) = '{' :: (separated (members.map dumpsMember) ++ ['}']) := by
  have hmap : (dumpsMembers members).Pairwise fun a b => a.1 ≤ b.1 := by
    rw [dumpsMembers_eq_map, List.pairwise_map]
    exact hsorted
  rw [dumps, sortMembers, List.Pairwise.insertionSort_eq hmap, dumpsMembers_eq_map, List.map_map]
  rfl

theorem starts_toDigits (n : ℕ) : Starts (Nat.toDigits 10 n) := by
  cases hds : Nat.toDigits 10 n with
  | nil => exact absurd hds Nat.toDigits_ne_nil
  | cons c ds =>
    have hc : c.isDigit := isDigit_toDigits n c (hds ▸ List.mem_cons_self)
    refine ⟨c, ds, rfl, ?_⟩
    refine ⟨?_, ?_, ?_⟩
    · by_contra hspace
      simp only [isWhitespace, Bool.not_eq_false, Bool.or_eq_true, decide_eq_true_eq] at hspace
      rcases hspace with ((rfl | rfl) | rfl) | rfl <;> exact absurd hc (by decide)
    · rintro rfl
      exact absurd hc (by decide)
    · rintro rfl
      exact absurd hc (by decide)

theorem starts_of_head {c : Char} {cs : List Char} (hspace : isWhitespace c = false)
    (hbracket : c ≠ ']') (hbrace : c ≠ '}') : Starts (c :: cs) :=
  ⟨c, cs, rfl, hspace, hbracket, hbrace⟩

theorem starts_dumps (v : Json) : Starts (dumps v) := by
  cases v with
  | null => exact starts_of_head rfl (by decide) (by decide)
  | bool b => cases b <;> exact starts_of_head rfl (by decide) (by decide)
  | int n =>
    cases n with
    | ofNat n => exact starts_toDigits n
    | negSucc n => exact starts_of_head rfl (by decide) (by decide)
  | str s => exact starts_of_head rfl (by decide) (by decide)
  | arr items =>
    rw [dumps]
    exact starts_of_head rfl (by decide) (by decide)
  | obj members =>
    rw [dumps]
    exact starts_of_head rfl (by decide) (by decide)

/-- The first characters that `scan_once` looks for. -/
def leads : List Char := ['"', '{', '[', 'n', 't', 'f', 'N', 'I', '-']

/-- A digit leads to a number. -/
theorem parseValue_toDigits (n fuel : ℕ) (rest : List Char) :
    parseValue h (fuel + 1) (Nat.toDigits 10 n ++ rest) =
      scanNumber h [] (Nat.toDigits 10 n ++ rest) := by
  cases hds : Nat.toDigits 10 n with
  | nil => exact absurd hds Nat.toDigits_ne_nil
  | cons c ds =>
    have hc : c.isDigit := isDigit_toDigits n c (hds ▸ List.mem_cons_self)
    have hlead : c ∉ leads := fun hmem => by
      simp only [leads, List.mem_cons, List.not_mem_nil, or_false] at hmem
      rcases hmem with rfl | rfl | rfl | rfl | rfl | rfl | rfl | rfl | rfl <;>
        exact absurd hc (by decide)
    simp only [leads, List.mem_cons, List.not_mem_nil, or_false, not_or] at hlead
    simp only [List.cons_append, parseValue, hlead, if_false]

/-- The text of an integer reads back. -/
theorem parseValue_dumpsInt {n : ℤ} (htoken : h.parseInt (String.ofList (dumpsInt n)) = .ok n)
    (fuel : ℕ) {rest : List Char} (hrest : Closes rest) :
    parseValue h (fuel + 1) (dumpsInt n ++ rest) = .ok (.int n, rest) := by
  cases n with
  | ofNat n =>
    rw [dumpsInt] at htoken ⊢
    rw [parseValue_toDigits, scanNumber_toDigits n hrest, List.nil_append, htoken]
    rfl
  | negSucc n =>
    rw [dumpsInt] at htoken ⊢
    have hnot : ¬['I', 'n', 'f', 'i', 'n', 'i', 't', 'y'] <+: Nat.toDigits 10 (n + 1) ++ rest := by
      intro hprefix
      cases hds : Nat.toDigits 10 (n + 1) with
      | nil => exact absurd hds Nat.toDigits_ne_nil
      | cons c ds =>
        have hc : c.isDigit := isDigit_toDigits (n + 1) c (hds ▸ List.mem_cons_self)
        rw [hds, List.cons_append, List.cons_prefix_cons] at hprefix
        obtain ⟨rfl, -⟩ := hprefix
        exact absurd hc (by decide)
    rw [List.cons_append, parseValue]
    simp only [Char.reduceEq, if_false, if_true, hnot]
    rw [scanNumber_toDigits (n + 1) hrest, List.singleton_append, htoken]
    rfl

theorem starts_dumpsMember (m : String × Json) : Starts (dumpsMember m) :=
  starts_of_head rfl (by decide) (by decide)

/-- The text of a member reads back when its value does. -/
theorem parseMember_dumpsMember {value : List Char → Except ε (Json × List Char)}
    (m : String × Json) {rest : List Char}
    (hvalue : value (dumps m.2 ++ rest) = .ok (m.2, rest)) :
    parseMember h value (dumpsMember m ++ rest) = .ok (m, rest) := by
  have hcolon : isWhitespace ':' = false := rfl
  have hskip := ((starts_dumps m.2).append rest).skipSpace
  simp only [dumpsMember, dumpsString, List.cons_append, List.append_assoc, List.nil_append]
  rw [parseMember, if_pos rfl, bind_of_ok (scanString_dumps m.1 _)]
  simp only [skipSpace, List.dropWhile_cons, hcolon, Bool.false_eq_true, if_false, if_true]
  rw [← skipSpace, hskip, bind_of_ok hvalue, String.ofList_toList]
  rfl

/-- The text of a readable value reads back, whatever closes it. -/
theorem parseValue_dumps {v : Json} (hv : Readable h v) {fuel : ℕ}
    (hfuel : (dumps v).length ≤ fuel) {rest : List Char} (hrest : Closes rest) :
    parseValue h fuel (dumps v ++ rest) = .ok (v, rest) := by
  induction hv generalizing fuel rest with
  | null =>
    obtain ⟨fuel, rfl⟩ := Nat.exists_eq_add_of_le' (Nat.le_trans (by simp [dumps]) hfuel : 1 ≤ fuel)
    simp [dumps, parseValue, scanLiteral]
  | bool b =>
    obtain ⟨fuel, rfl⟩ := Nat.exists_eq_add_of_le'
      (Nat.le_trans (by cases b <;> simp [dumps]) hfuel : 1 ≤ fuel)
    cases b <;> simp [dumps, parseValue, scanLiteral]
  | int token =>
    obtain ⟨fuel, rfl⟩ := Nat.exists_eq_add_of_le'
      (Nat.le_trans (starts_dumps _).length_pos hfuel : 1 ≤ fuel)
    rw [dumps]
    exact parseValue_dumpsInt token fuel hrest
  | str s =>
    obtain ⟨fuel, rfl⟩ := Nat.exists_eq_add_of_le'
      (Nat.le_trans (starts_dumps _).length_pos hfuel : 1 ≤ fuel)
    rw [dumps, dumpsString, List.cons_append, List.append_assoc, List.singleton_append, parseValue,
      if_pos rfl, bind_of_ok (scanString_dumps s rest)]
    simp only [String.ofList_toList]
    rfl
  | @arr items values ih =>
    obtain ⟨fuel, rfl⟩ := Nat.exists_eq_add_of_le'
      (Nat.le_trans (starts_dumps _).length_pos hfuel : 1 ≤ fuel)
    have hlength : ∀ v ∈ items, (dumps v).length ≤ fuel := fun v hv => by
      have : (dumps v).length ≤ (separated (items.map dumps)).length :=
        length_le_separated (List.mem_map_of_mem hv)
      rw [dumps, dumpsItems_eq_map] at hfuel
      simp only [List.length_cons, List.length_append] at hfuel
      omega
    have hitems := parseBrackets_separated (h := h) (Or.inl rfl : ']' = ']' ∨ ']' = '}')
      (fun v _ => starts_dumps v) (fun v hv rest hrest => ih v hv (hlength v hv) hrest) rest
    rw [dumps, dumpsItems_eq_map, List.cons_append, List.append_assoc, List.singleton_append,
      parseValue]
    simp only [Char.reduceEq, if_false, if_true]
    rw [bind_of_ok hitems]
    rfl
  | @obj members sorted pairs values ih =>
    obtain ⟨fuel, rfl⟩ := Nat.exists_eq_add_of_le'
      (Nat.le_trans (starts_dumps _).length_pos hfuel : 1 ≤ fuel)
    rw [dumps_obj_of_sorted sorted] at hfuel ⊢
    have hlength : ∀ m ∈ members, (dumps m.2).length ≤ fuel := fun m hm => by
      have hmember : (dumpsMember m).length ≤ (separated (members.map dumpsMember)).length :=
        length_le_separated (List.mem_map_of_mem hm)
      simp only [dumpsMember, List.length_append, List.length_cons] at hmember
      simp only [List.length_cons, List.length_append] at hfuel
      omega
    have hmembers := parseBrackets_separated (h := h) (Or.inr rfl : '}' = ']' ∨ '}' = '}')
      (fun m _ => starts_dumpsMember m)
      (fun m hm rest hrest => parseMember_dumpsMember (h := h) m
        (ih m hm (hlength m hm) hrest)) rest
    rw [List.cons_append, List.append_assoc, List.singleton_append, parseValue]
    simp only [Char.reduceEq, if_false, if_true]
    rw [bind_of_ok hmembers, bind_of_ok pairs]
    rfl

/-- The text of a readable value is read as the value. -/
theorem loads_dumps {v : Json} (hv : Readable h v) : loads h (dumps v) = .ok v := by
  have hread : parseValue h ((dumps v).length + 1) (dumps v ++ []) = .ok (v, []) :=
    parseValue_dumps hv (by omega) (by simp [Closes])
  rw [List.append_nil] at hread
  rw [loads, (starts_dumps v).skipSpace, bind_of_ok hread]
  simp [skipSpace, pure, Except.pure]

/-! ## Sizes -/

@[simp] theorem textSize_nil : textSize [] = 0 := rfl

@[simp] theorem textSize_cons (c : Char) (cs : List Char) :
    textSize (c :: cs) = c.utf8Size + textSize cs := by
  simp [textSize]

@[simp] theorem textSize_append (cs ds : List Char) :
    textSize (cs ++ ds) = textSize cs + textSize ds := by
  simp [textSize]

theorem textSize_takeWhile (p : Char → Bool) (cs : List Char) :
    textSize (cs.takeWhile p) + textSize (cs.dropWhile p) = textSize cs := by
  rw [← textSize_append, List.takeWhile_append_dropWhile]

theorem textSize_skipSpace (cs : List Char) : textSize (skipSpace cs) ≤ textSize cs := by
  have := textSize_takeWhile isWhitespace cs
  rw [skipSpace]
  omega

theorem textSize_digits {cs : List Char} (hcs : ∀ c ∈ cs, c.isDigit) : textSize cs = cs.length := by
  induction cs with
  | nil => rfl
  | cons c cs ih =>
    obtain ⟨hc, hcs⟩ := List.forall_mem_cons.mp hcs
    have hsize : c.utf8Size = 1 := Char.utf8Size_eq_one_iff.mpr (by
      simp only [Char.isDigit, Bool.and_eq_true, decide_eq_true_eq] at hc
      exact UInt32.le_trans hc.2 (by decide))
    rw [textSize_cons, ih hcs, hsize, List.length_cons, Nat.add_comm]

theorem length_le_textSize (cs : List Char) : cs.length ≤ textSize cs := by
  induction cs with
  | nil => simp
  | cons c cs ih =>
    have := Char.utf8Size_pos c
    simp only [List.length_cons, textSize_cons]
    omega

/-- The characters of a text take the bytes of its encoding. -/
theorem utf8ByteSize_ofList (cs : List Char) : (String.ofList cs).utf8ByteSize = textSize cs := by
  induction cs with
  | nil => simp
  | cons c cs ih =>
    rw [← List.singleton_append, String.ofList_append, String.utf8ByteSize_append, ih,
      textSize_append]
    simp [String.utf8ByteSize_singleton]

/-- A character that needs no escape is written as itself. -/
theorem escapeChar_self {c : Char} (hquote : c ≠ '"') (hslash : c ≠ '\\') (hc : ¬c.toNat < 32) :
    escapeChar c = [c] := by
  have hcontrol : ∀ d : Char, d.toNat < 32 → c ≠ d := fun d hd hcd => hc (hcd ▸ hd)
  rw [escapeChar, if_neg hquote, if_neg hslash, if_neg (hcontrol _ (by decide)),
    if_neg (hcontrol _ (by decide)), if_neg (hcontrol _ (by decide)),
    if_neg (hcontrol _ (by decide)), if_neg (hcontrol _ (by decide)), if_neg hc]

theorem utf8Size_digitChar : ∀ n < 16, (Nat.digitChar n).utf8Size = 1 := by decide

/-- No escape is longer than six bytes. -/
theorem textSize_escape_le (c : Char) : textSize (escapeChar c) ≤ 6 := by
  have hsize := c.utf8Size_le_four
  unfold escapeChar
  split_ifs with h₁ h₂ h₃ h₄ h₅ h₆ h₇ h₈
  iterate 7 decide
  · have hhigh := utf8Size_digitChar (c.toNat / 16) (by omega)
    have hlow := utf8Size_digitChar (c.toNat % 16) (by omega)
    simp only [textSize_cons, hhigh, hlow]
    decide
  · simp only [textSize_cons, textSize_nil]
    omega

/-- A string's text, when every character is escaped. -/
theorem textSize_dumpsString_le (s : String) : textSize (dumpsString s) ≤ 6 * s.length + 2 := by
  have hescape : ∀ cs : List Char, textSize (cs.flatMap escapeChar) ≤ 6 * cs.length := by
    intro cs
    induction cs with
    | nil => simp
    | cons c cs ih =>
      have := textSize_escape_le c
      simp only [List.flatMap_cons, textSize_append, List.length_cons]
      omega
  have h := hescape s.toList
  have hquote : Char.utf8Size '"' = 1 := rfl
  rw [String.length_toList] at h
  simp only [dumpsString, textSize_cons, textSize_append, textSize_nil, hquote]
  omega

/-- A short escape stands for a character whose own text is as short. -/
theorem textSize_unescape {e c : Char} (he : unescape e = some c) :
    textSize (escapeChar c) ≤ 2 := by
  unfold unescape at he
  split_ifs at he with h₁ h₂ h₃ h₄ h₅ h₆ <;> obtain rfl := Option.some.inj he
  · rcases h₁ with rfl | rfl | rfl <;> decide
  all_goals decide

theorem textSize_scanHex {cs rest : List Char} {n : ℕ} (hs : scanHex cs = some (n, rest)) :
    textSize rest + 4 ≤ textSize cs := by
  unfold scanHex at hs
  split at hs
  · rename_i a b c d tail
    simp only [Option.bind_eq_bind, Option.bind_eq_some_iff, Option.pure_def,
      Option.some.injEq, Prod.mk.injEq] at hs
    obtain ⟨-, -, -, -, -, -, -, -, -, rfl⟩ := hs
    have := a.utf8Size_pos
    have := b.utf8Size_pos
    have := c.utf8Size_pos
    have := d.utf8Size_pos
    simp only [textSize_cons]
    omega
  · simp at hs

theorem textSize_scanUnicode {cs rest : List Char} {c : Char}
    (hs : scanUnicode h cs = .ok (c, rest)) : textSize rest + 4 ≤ textSize cs := by
  unfold scanUnicode at hs
  split at hs
  · simp at hs
  · rename_i high tail hhex
    have hsize := textSize_scanHex hhex
    split_ifs at hs with hhigh hlow
    · split at hs
      · rename_i tail'
        split at hs
        · simp at hs
        · rename_i low rest' hhex'
          have hsize' := textSize_scanHex hhex'
          split_ifs at hs with hlow
          obtain ⟨-, rfl⟩ := Prod.mk.inj (Except.ok.inj hs)
          simp only [textSize_cons] at hsize
          omega
      · simp at hs
    · obtain ⟨-, rfl⟩ := Prod.mk.inj (Except.ok.inj hs)
      exact hsize

/-- The text of a character of a string, or of the closing quote. -/
def charText : Option Char → List Char
  | none => ['"']
  | some c => escapeChar c

/-- The text of the character read is no longer than what was read. -/
theorem textSize_scanChar {cs rest : List Char} {c : Option Char}
    (hs : scanChar h cs = .ok (c, rest)) :
    textSize (charText c) + textSize rest ≤ textSize cs := by
  cases cs with
  | nil => simp [scanChar] at hs
  | cons first tail =>
    simp only [scanChar] at hs
    have hslash : Char.utf8Size '\\' = 1 := rfl
    have hu : Char.utf8Size 'u' = 1 := rfl
    have hquote : Char.utf8Size '"' = 1 := rfl
    split_ifs at hs with h₁ h₂ h₃
    · obtain ⟨rfl, rfl⟩ := Prod.mk.inj (Except.ok.inj hs)
      simp only [charText, textSize_cons, textSize_nil, h₁]
      rfl
    · split at hs
      · simp at hs
      · rename_i e tail
        split_ifs at hs with h₃
        · obtain ⟨⟨x, tail'⟩, hx, hs⟩ := bind_eq_ok.mp hs
          obtain ⟨rfl, rfl⟩ := Prod.mk.inj (Except.ok.inj hs)
          have hsize := textSize_scanUnicode hx
          have hle := textSize_escape_le x
          simp only [charText, textSize_cons, h₂, h₃, hslash, hu]
          omega
        · split at hs
          · simp at hs
          · rename_i x hx
            obtain ⟨rfl, rfl⟩ := Prod.mk.inj (Except.ok.inj hs)
            have hle := textSize_unescape hx
            have := e.utf8Size_pos
            simp only [charText, textSize_cons, h₂, hslash]
            omega
    · obtain ⟨rfl, rfl⟩ := Prod.mk.inj (Except.ok.inj hs)
      simp only [charText, escapeChar_self h₁ h₂ h₃, textSize_cons, textSize_nil]
      omega

theorem textSize_scanString {fuel : ℕ} {cs s rest : List Char}
    (hs : scanString h fuel cs = .ok (s, rest)) :
    textSize (s.flatMap escapeChar) + 1 + textSize rest ≤ textSize cs := by
  induction fuel generalizing cs s with
  | zero => simp [scanString] at hs
  | succ fuel ih =>
    rw [scanString] at hs
    obtain ⟨⟨c, tail⟩, hc, hs⟩ := bind_eq_ok.mp hs
    have hsize := textSize_scanChar hc
    cases c with
    | none =>
      obtain ⟨rfl, rfl⟩ := Prod.mk.inj (Except.ok.inj hs)
      have hquote : textSize (charText none) = 1 := rfl
      simp only [List.flatMap_nil, textSize_nil]
      omega
    | some c =>
      obtain ⟨⟨s', tail'⟩, hs', hs⟩ := bind_eq_ok.mp hs
      obtain ⟨rfl, rfl⟩ := Prod.mk.inj (Except.ok.inj hs)
      have hrest := ih hs'
      simp only [charText, List.flatMap_cons, textSize_append] at hsize ⊢
      omega

theorem textSize_dumpsString {fuel : ℕ} {cs s rest : List Char}
    (hs : scanString h fuel cs = .ok (s, rest)) :
    textSize (dumpsString (String.ofList s)) + textSize rest ≤ textSize ('"' :: cs) := by
  have hsize := textSize_scanString hs
  have hquote : Char.utf8Size '"' = 1 := rfl
  simp only [dumpsString, String.toList_ofList, textSize_cons, textSize_append, textSize_nil,
    hquote]
  omega

/-- Hooks that do not lengthen a text. -/
structure Hooks.Thrifty (h : Hooks ε) : Prop where
  int : ∀ sign digits n, sign = [] ∨ sign = ['-'] → digits ≠ [] → (∀ c ∈ digits, c.isDigit) →
    h.parseInt (String.ofList (sign ++ digits)) = .ok n →
    textSize (dumpsInt n) ≤ textSize sign + textSize digits
  pairs : ∀ members ms, h.objectPairs members = .ok ms → ms = members

theorem textSize_scanDigits {cs digits rest : List Char}
    (hs : scanDigits cs = some (digits, rest)) :
    textSize digits + textSize rest = textSize cs := by
  unfold scanDigits at hs
  split at hs
  · simp at hs
  · rename_i c tail
    split_ifs at hs with h₁ h₂ <;> obtain ⟨rfl, rfl⟩ := Prod.mk.inj (Option.some.inj hs)
    · simp
    · have := textSize_takeWhile Char.isDigit tail
      simp only [textSize_cons]
      omega

theorem scanDigits_digits {cs digits rest : List Char} (hs : scanDigits cs = some (digits, rest)) :
    digits ≠ [] ∧ ∀ c ∈ digits, c.isDigit := by
  unfold scanDigits at hs
  split at hs
  · simp at hs
  · rename_i c tail
    split_ifs at hs with h₁ h₂ <;> obtain ⟨rfl, rfl⟩ := Prod.mk.inj (Option.some.inj hs)
    · subst h₁
      simp
    · exact ⟨by simp, List.forall_mem_cons.mpr ⟨h₂, fun d hd => List.mem_takeWhile_imp hd⟩⟩

theorem textSize_scanNumber (hh : h.Thrifty) {sign cs rest : List Char} {v : Json}
    (hsign : sign = [] ∨ sign = ['-']) (hs : scanNumber h sign cs = .ok (v, rest)) :
    textSize (dumps v) + textSize rest ≤ textSize sign + textSize cs := by
  unfold scanNumber at hs
  split at hs
  · simp at hs
  · rename_i digits tail hdigits
    have hsize := textSize_scanDigits hdigits
    simp only at hs
    split_ifs at hs with hplain
    obtain ⟨n, hn, hs⟩ := bind_eq_ok.mp hs
    obtain ⟨rfl, rfl⟩ := Prod.mk.inj (Except.ok.inj hs)
    obtain ⟨hne, hall⟩ := scanDigits_digits hdigits
    have hint := hh.int _ _ _ hsign hne hall hn
    simp only [dumps]
    omega

theorem textSize_scanLiteral {word cs rest : List Char} {v w : Json}
    (hs : scanLiteral h word v cs = .ok (w, rest)) :
    w = v ∧ textSize word + textSize rest = textSize cs := by
  unfold scanLiteral at hs
  split_ifs at hs with hprefix
  obtain ⟨rfl, rfl⟩ := Prod.mk.inj (Except.ok.inj hs)
  obtain ⟨tail, rfl⟩ := hprefix
  simp

/-! ### Sequences -/

/-- Commas and texts. -/
theorem textSize_separated (texts : List (List Char)) :
    textSize (separated texts) = (texts.map fun text => textSize text + 1).sum - 1 := by
  have hcomma : Char.utf8Size ',' = 1 := rfl
  match texts with
  | [] => rfl
  | [text] => simp [separated]
  | text :: next :: texts =>
    have ih := textSize_separated (next :: texts)
    simp only [separated, textSize_append, textSize_cons, List.map_cons, List.sum_cons,
      hcomma] at ih ⊢
    omega

theorem textSize_separated_cons {text : List Char} {texts : List (List Char)} (hne : texts ≠ []) :
    textSize (separated (text :: texts)) = textSize text + 1 + textSize (separated texts) := by
  have hcomma : Char.utf8Size ',' = 1 := rfl
  match texts, hne with
  | next :: texts, _ =>
    simp only [separated, textSize_append, textSize_cons, hcomma]
    omega

/-- The order of the texts does not change the size. -/
theorem textSize_separated_perm {texts texts' : List (List Char)} (hperm : texts.Perm texts') :
    textSize (separated texts) = textSize (separated texts') := by
  rw [textSize_separated, textSize_separated, (hperm.map _).sum_nat]

theorem textSize_dumps_arr (items : List Json) :
    textSize (dumps (.arr items)) = textSize (separated (items.map dumps)) + 2 := by
  have hopen : Char.utf8Size '[' = 1 := rfl
  have hclose : Char.utf8Size ']' = 1 := rfl
  simp only [dumps, dumpsItems_eq_map, textSize_cons, textSize_append, textSize_nil, hopen, hclose]
  omega

theorem textSize_dumps_obj (members : List (String × Json)) :
    textSize (dumps (.obj members)) = textSize (separated (members.map dumpsMember)) + 2 := by
  have hopen : Char.utf8Size '{' = 1 := rfl
  have hclose : Char.utf8Size '}' = 1 := rfl
  have hperm : ((sortMembers (dumpsMembers members)).map fun m =>
      dumpsString m.1 ++ ':' :: m.2).Perm (members.map dumpsMember) := by
    refine ((List.perm_insertionSort _ _).map _).trans ?_
    rw [dumpsMembers_eq_map, List.map_map]
    rfl
  simp only [dumps, textSize_cons, textSize_append, textSize_nil, hopen, hclose,
    textSize_separated_perm hperm]
  omega

/-- A member of an object is no longer than the object. -/
theorem textSize_dumps_member_le {members : List (String × Json)} {m : String × Json}
    (hm : m ∈ members) : textSize (dumps m.2) ≤ textSize (dumps (.obj members)) := by
  have hcolon : Char.utf8Size ':' = 1 := rfl
  have hle : textSize (dumpsMember m) + 1 ≤
      ((members.map dumpsMember).map fun text => textSize text + 1).sum := by
    obtain ⟨before, after, rfl⟩ := List.append_of_mem hm
    simp only [List.map_append, List.map_cons, List.sum_append, List.sum_cons]
    omega
  rw [textSize_dumps_obj, textSize_separated]
  simp only [dumpsMember, textSize_append, textSize_cons, hcolon] at hle
  omega

/-- A text that needs no escape is written as it is. -/
theorem textSize_dumpsString_plain {s : String}
    (hs : ∀ c ∈ s.toList, c ≠ '"' ∧ c ≠ '\\' ∧ 32 ≤ c.toNat ∧ c.toNat < 128) :
    textSize (dumpsString s) = s.length + 2 := by
  have hescape : ∀ cs : List Char,
      (∀ c ∈ cs, c ≠ '"' ∧ c ≠ '\\' ∧ 32 ≤ c.toNat ∧ c.toNat < 128) →
      textSize (cs.flatMap escapeChar) = cs.length := by
    intro cs hcs
    induction cs with
    | nil => rfl
    | cons c cs ih =>
      obtain ⟨hquote, hslash, hlow, hhigh⟩ := hcs c List.mem_cons_self
      have hone : c.utf8Size = 1 := Char.utf8Size_eq_one_iff.mpr (Nat.le_of_lt_succ hhigh)
      have hrest := ih fun d hd => hcs d (List.mem_cons_of_mem _ hd)
      rw [List.flatMap_cons, textSize_append, escapeChar_self hquote hslash (not_lt.mpr hlow),
        hrest, textSize_cons, textSize_nil, hone, List.length_cons]
      omega
  have h := hescape s.toList hs
  have hquote : Char.utf8Size '"' = 1 := rfl
  rw [String.length_toList] at h
  simp only [dumpsString, textSize_cons, textSize_append, textSize_nil, hquote]
  omega

/-- The text of an object is longer than a string it holds. -/
theorem length_lt_dumps_obj {members : List (String × Json)} {key s : String}
    (hmem : (key, Json.str s) ∈ members) : s.length < textSize (dumps (.obj members)) := by
  have hmember := length_le_separated (List.mem_map_of_mem (f := dumpsMember) hmem)
  have hseparated := length_le_textSize (separated (members.map dumpsMember))
  have hescape := length_flatMap_escape s.toList
  simp only [dumpsMember, dumps, dumpsString, List.length_append, List.length_cons,
    List.length_nil, String.length_toList] at hmember hescape
  rw [textSize_dumps_obj]
  omega

/-! ### A bound by the value -/

mutual

/-- The size of the text of a value whose strings are escaped character by character. -/
def weight : Json → ℕ
  | .null => 5
  | .bool _ => 5
  | .int n => textSize (dumpsInt n)
  | .str s => 6 * s.length + 2
  | .arr items => weightItems items + 2
  | .obj members => weightMembers members + 2

def weightItems : List Json → ℕ
  | [] => 0
  | v :: items => weight v + 1 + weightItems items

def weightMembers : List (String × Json) → ℕ
  | [] => 0
  | (key, v) :: members => 6 * key.length + weight v + 4 + weightMembers members

end

theorem textSize_dumps_le (v : Json) : textSize (dumps v) ≤ weight v := by
  induction v using Json.nested with
  | null => simp only [dumps, weight]; decide
  | bool b => cases b <;> simp only [dumps, weight] <;> decide
  | int n => simp only [dumps, weight, le_refl]
  | str s => simpa only [dumps, weight] using textSize_dumpsString_le s
  | arr items hitems =>
    have hsum : ((items.map dumps).map fun text => textSize text + 1).sum ≤ weightItems items := by
      induction items with
      | nil => simp [weightItems]
      | cons v items ih =>
        have hv := hitems v (by simp)
        have hrest := ih fun w hw => hitems w (List.mem_cons_of_mem _ hw)
        simp only [List.map_cons, List.sum_cons, weightItems]
        omega
    rw [textSize_dumps_arr, textSize_separated, weight]
    omega
  | obj members hmembers =>
    have hsum : ((members.map dumpsMember).map fun text => textSize text + 1).sum ≤
        weightMembers members := by
      have hcolon : Char.utf8Size ':' = 1 := rfl
      induction members with
      | nil => simp [weightMembers]
      | cons m members ih =>
        have hm := hmembers m (by simp)
        have hkey := textSize_dumpsString_le m.1
        have hrest := ih fun n hn => hmembers n (List.mem_cons_of_mem _ hn)
        simp only [List.map_cons, List.sum_cons, weightMembers, dumpsMember, textSize_append,
          textSize_cons, hcolon]
        omega
    rw [textSize_dumps_obj, textSize_separated, weight]
    omega

/-- The weight of a record of small members. -/
theorem weight_record {members : List (String × Json)} {keys bound : ℕ}
    (hkeys : ∀ key ∈ members.map Prod.fst, key.length ≤ keys)
    (hmembers : ∀ m ∈ members, weight m.2 ≤ bound) :
    weight (.obj members) ≤ members.length * (6 * keys + bound + 4) + 2 := by
  have hsum : weightMembers members ≤ members.length * (6 * keys + bound + 4) := by
    induction members with
    | nil => simp [weightMembers]
    | cons m members ih =>
      have hkey := hkeys m.1 (by simp)
      have hm := hmembers m (by simp)
      have hrest := ih (fun k hk => hkeys k (List.mem_cons_of_mem _ hk))
        fun n hn => hmembers n (List.mem_cons_of_mem _ hn)
      rw [weightMembers, List.length_cons, Nat.add_one_mul members.length]
      omega
  rw [weight]
  omega

/-- Elements whose texts are no longer than what was read make such a sequence. -/
theorem textSize_parseSequence {α : Type} {element : List Char → Except ε (α × List Char)}
    {text : α → List Char}
    (helement : ∀ cs x rest, element cs = .ok (x, rest) →
      textSize (text x) + textSize rest ≤ textSize cs)
    {close : Char} {fuel : ℕ} {cs rest : List Char} {xs : List α}
    (hs : parseSequence h element close fuel cs = .ok (xs, rest)) :
    xs ≠ [] ∧ textSize (separated (xs.map text)) + 1 + textSize rest ≤ textSize cs := by
  induction fuel generalizing cs xs with
  | zero => simp [parseSequence] at hs
  | succ fuel ih =>
    rw [parseSequence] at hs
    obtain ⟨⟨x, tail⟩, hx, hs⟩ := bind_eq_ok.mp hs
    have hsize := helement _ _ _ hx
    have hspace := textSize_skipSpace tail
    simp only at hs
    split at hs
    · simp at hs
    · rename_i c tail' htail
      have := c.utf8Size_pos
      simp only [htail, textSize_cons] at hspace
      split_ifs at hs with hclose hcomma
      · obtain ⟨rfl, rfl⟩ := Prod.mk.inj (Except.ok.inj hs)
        refine ⟨by simp, ?_⟩
        simp only [List.map_singleton, separated]
        omega
      · obtain ⟨⟨xs', tail''⟩, hxs, hs⟩ := bind_eq_ok.mp hs
        obtain ⟨rfl, rfl⟩ := Prod.mk.inj (Except.ok.inj hs)
        obtain ⟨hne, hrest⟩ := ih hxs
        have hspace' := textSize_skipSpace tail'
        refine ⟨by simp, ?_⟩
        simp only at hne hrest ⊢
        rw [List.map_cons, textSize_separated_cons (by simpa using hne)]
        omega

theorem textSize_parseBrackets {α : Type} {element : List Char → Except ε (α × List Char)}
    {text : α → List Char}
    (helement : ∀ cs x rest, element cs = .ok (x, rest) →
      textSize (text x) + textSize rest ≤ textSize cs)
    {close : Char} {cs rest : List Char} {xs : List α}
    (hs : parseBrackets h element close cs = .ok (xs, rest)) :
    textSize (separated (xs.map text)) + 1 + textSize rest ≤ textSize cs := by
  have hspace := textSize_skipSpace cs
  unfold parseBrackets at hs
  split at hs
  · simp at hs
  · rename_i c tail htail
    have := c.utf8Size_pos
    split_ifs at hs with hclose
    · obtain ⟨rfl, rfl⟩ := Prod.mk.inj (Except.ok.inj hs)
      simp only [htail, textSize_cons] at hspace
      simp only [List.map_nil, separated, textSize_nil]
      omega
    · have := (textSize_parseSequence helement hs).2
      rw [htail] at hspace
      omega

theorem textSize_parseMember {value : List Char → Except ε (Json × List Char)}
    (hvalue : ∀ cs v rest, value cs = .ok (v, rest) →
      textSize (dumps v) + textSize rest ≤ textSize cs)
    (cs : List Char) (m : String × Json) (rest : List Char)
    (hs : parseMember h value cs = .ok (m, rest)) :
    textSize (dumpsMember m) + textSize rest ≤ textSize cs := by
  have hcolon : Char.utf8Size ':' = 1 := rfl
  unfold parseMember at hs
  split at hs
  · simp at hs
  · rename_i c tail
    split_ifs at hs with hquote
    subst hquote
    obtain ⟨⟨key, tail'⟩, hkey, hs⟩ := bind_eq_ok.mp hs
    have hsize := textSize_dumpsString hkey
    have hspace := textSize_skipSpace tail'
    simp only at hs
    split at hs
    · simp at hs
    · rename_i c tail'' htail
      split_ifs at hs with hc
      subst hc
      obtain ⟨⟨v, last⟩, hv, hs⟩ := bind_eq_ok.mp hs
      obtain ⟨rfl, rfl⟩ := Prod.mk.inj (Except.ok.inj hs)
      have hsize' := hvalue _ _ _ hv
      have hspace' := textSize_skipSpace tail''
      simp only [htail, textSize_cons, hcolon] at hspace
      simp only [dumpsMember, textSize_append, textSize_cons, hcolon] at hsize ⊢
      omega

/-- The text of a value is no longer than the text it was read from. -/
theorem parseValue_size (hh : h.Thrifty) {fuel : ℕ} {cs rest : List Char} {v : Json}
    (hs : parseValue h fuel cs = .ok (v, rest)) :
    textSize (dumps v) + textSize rest ≤ textSize cs := by
  induction fuel generalizing cs v rest with
  | zero => simp [parseValue] at hs
  | succ fuel ih =>
    cases cs with
    | nil => simp [parseValue] at hs
    | cons c tail =>
      rw [parseValue] at hs
      split_ifs at hs with hquote hbrace hbracket hn ht hf hN hI hminus hinfinity
      · subst hquote
        obtain ⟨⟨s, tail'⟩, hstring, hs⟩ := bind_eq_ok.mp hs
        obtain ⟨rfl, rfl⟩ := Prod.mk.inj (Except.ok.inj hs)
        simpa only [dumps] using textSize_dumpsString hstring
      · subst hbrace
        obtain ⟨⟨members, tail'⟩, hmembers, hs⟩ := bind_eq_ok.mp hs
        obtain ⟨ms, hpairs, hs⟩ := bind_eq_ok.mp hs
        obtain ⟨rfl, rfl⟩ := Prod.mk.inj (Except.ok.inj hs)
        obtain rfl := hh.pairs _ _ hpairs
        have hopen : Char.utf8Size '{' = 1 := rfl
        have hsize := textSize_parseBrackets (textSize_parseMember fun _ _ _ hv => ih hv) hmembers
        simp only [textSize_dumps_obj, textSize_cons, hopen]
        omega
      · subst hbracket
        obtain ⟨⟨items, tail'⟩, hitems, hs⟩ := bind_eq_ok.mp hs
        obtain ⟨rfl, rfl⟩ := Prod.mk.inj (Except.ok.inj hs)
        have hopen : Char.utf8Size '[' = 1 := rfl
        have hsize : textSize (separated (items.map dumps)) + 1 + textSize tail' ≤ textSize tail :=
          textSize_parseBrackets (fun _ _ _ hv => ih hv) hitems
        simp only [textSize_dumps_arr, textSize_cons, hopen]
        omega
      · obtain ⟨rfl, hsize⟩ := textSize_scanLiteral hs
        subst hn
        simp only [dumps, textSize_cons] at hsize ⊢
        omega
      · obtain ⟨rfl, hsize⟩ := textSize_scanLiteral hs
        subst ht
        simp only [dumps, textSize_cons] at hsize ⊢
        omega
      · obtain ⟨rfl, hsize⟩ := textSize_scanLiteral hs
        subst hf
        simp only [dumps, textSize_cons] at hsize ⊢
        omega
      · subst hminus
        have hsize := textSize_scanNumber hh (Or.inr rfl) hs
        simp only [textSize_cons, textSize_nil] at hsize ⊢
        omega
      · have hsize := textSize_scanNumber hh (Or.inl rfl) hs
        simpa using hsize

/-- The text of a value is no longer than the text it was loaded from. -/
theorem loads_size (hh : h.Thrifty) {text : List Char} {v : Json} (hs : loads h text = .ok v) :
    textSize (dumps v) ≤ textSize text := by
  obtain ⟨⟨w, rest⟩, hread, hs⟩ := bind_eq_ok.mp hs
  simp only at hs
  split_ifs at hs with hrest
  obtain rfl := Except.ok.inj hs
  have hsize := parseValue_size hh hread
  have hspace := textSize_skipSpace text
  omega

end JsonText
