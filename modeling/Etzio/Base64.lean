import Mathlib

/-!
# Base64

The standard alphabet with padding. Three bytes are four characters, and the end of a text of one
or two more bytes is padded. What is encoded is decoded (`decode_encode`) ; an encoded text is
ASCII and has four characters for every three bytes begun (`encode_ascii`, `length_encode`).
-/

namespace Base64

/-- The character of six bits. -/
def character (n : ℕ) : Char :=
  if n < 26 then Char.ofNat (65 + n)
  else if n < 52 then Char.ofNat (71 + n)
  else if n < 62 then Char.ofNat (n - 4)
  else if n = 62 then '+'
  else '/'

/-- The six bits of a character. -/
def bits (c : Char) : Option ℕ :=
  if 'A' ≤ c ∧ c ≤ 'Z' then some (c.toNat - 65)
  else if 'a' ≤ c ∧ c ≤ 'z' then some (c.toNat - 71)
  else if '0' ≤ c ∧ c ≤ '9' then some (c.toNat + 4)
  else if c = '+' then some 62
  else if c = '/' then some 63
  else none

/-- The Base64 text of some bytes. -/
def encode : List UInt8 → List Char
  | [] => []
  | [a] => [character (a.toNat / 4), character (a.toNat % 4 * 16), '=', '=']
  | [a, b] =>
    [character (a.toNat / 4), character (a.toNat % 4 * 16 + b.toNat / 16),
      character (b.toNat % 16 * 4), '=']
  | a :: b :: c :: rest =>
    character (a.toNat / 4) :: character (a.toNat % 4 * 16 + b.toNat / 16) ::
      character (b.toNat % 16 * 4 + c.toNat / 64) :: character (c.toNat % 64) :: encode rest

theorem length_encode (bytes : List UInt8) :
    (encode bytes).length = (bytes.length + 2) / 3 * 4 := by
  induction bytes using encode.induct with
  | case1 => rfl
  | case2 a => simp [encode]
  | case3 a b => simp [encode]
  | case4 a b c rest ih =>
    simp only [encode, List.length_cons, ih]
    omega

theorem character_ascii : ∀ n < 64, (character n).toNat < 128 := by decide

/-- An encoded text is ASCII. -/
theorem encode_ascii (bytes : List UInt8) : ∀ c ∈ encode bytes, c.toNat < 128 := by
  induction bytes using encode.induct with
  | case1 => simp [encode]
  | case2 a =>
    have ha := a.toNat_lt
    simp [encode, character_ascii (a.toNat / 4) (by omega),
      character_ascii (a.toNat % 4 * 16) (by omega)]
  | case3 a b =>
    have ha := a.toNat_lt
    have hb := b.toNat_lt
    simp [encode, character_ascii (a.toNat / 4) (by omega),
      character_ascii (a.toNat % 4 * 16 + b.toNat / 16) (by omega),
      character_ascii (b.toNat % 16 * 4) (by omega)]
  | case4 a b c rest ih =>
    have ha := a.toNat_lt
    have hb := b.toNat_lt
    have hc := c.toNat_lt
    simpa [encode, character_ascii (a.toNat / 4) (by omega),
      character_ascii (a.toNat % 4 * 16 + b.toNat / 16) (by omega),
      character_ascii (b.toNat % 16 * 4 + c.toNat / 64) (by omega),
      character_ascii (c.toNat % 64) (by omega)] using ih

/-- The bytes of a Base64 text. Padding stands at the end, and its spare bits are dropped ; a last
group that is full may be followed by any amount of padding. -/
def decode : List Char → Option (List UInt8)
  | [] => some []
  | w :: x :: y :: z :: rest => do
    let w ← bits w
    let x ← bits x
    let first := UInt8.ofNat (w * 4 + x / 16)
    if z = '=' then
      if rest ≠ [] then none
      else if y = '=' then return [first]
      else
        let y ← bits y
        return [first, UInt8.ofNat (x % 16 * 16 + y / 4)]
    else
      let y ← bits y
      let z ← bits z
      let bytes ← (if rest.all (· = '=') then some [] else decode rest)
      return first :: UInt8.ofNat (x % 16 * 16 + y / 4) :: UInt8.ofNat (y % 4 * 64 + z) :: bytes
  | _ => none

theorem bits_character : ∀ n < 64, bits (character n) = some n := by decide

theorem character_ne_pad : ∀ n < 64, character n ≠ '=' := by decide

/-- A byte is put together from its high and its low bits. -/
theorem ofNat_toNat_split {a : UInt8} {n : ℕ} (h : n = a.toNat) : UInt8.ofNat n = a := by
  rw [h, UInt8.ofNat_toNat]

/-- Only the empty text is encoded as padding alone. -/
theorem encode_all_pad {bytes : List UInt8} (h : (encode bytes).all (· = '=')) : bytes = [] := by
  have hhead (a : UInt8) : character (a.toNat / 4) ≠ '=' :=
    character_ne_pad _ (by have := a.toNat_lt; omega)
  match bytes with
  | [] => rfl
  | [a] => simp [encode, hhead] at h
  | [a, b] => simp [encode, hhead] at h
  | a :: b :: c :: rest => simp [encode, hhead] at h

/-- The groups after a full one are decoded, or there are none. -/
theorem decode_tail (bytes : List UInt8) :
    (if (encode bytes).all (· = '=') then some [] else decode (encode bytes)) =
      decode (encode bytes) := by
  split_ifs with h
  · rw [encode_all_pad h, encode, decode]
  · rfl

/-- What is encoded is decoded. -/
theorem decode_encode (bytes : List UInt8) : decode (encode bytes) = some bytes := by
  induction bytes using encode.induct with
  | case1 => rfl
  | case2 a =>
    have ha := a.toNat_lt
    rw [encode, decode, bits_character _ (by omega), bits_character _ (by omega)]
    have hfirst : UInt8.ofNat (a.toNat / 4 * 4 + a.toNat % 4 * 16 / 16) = a :=
      ofNat_toNat_split (by omega)
    simp only [Option.bind_eq_bind, Option.bind_some, hfirst, ne_eq, not_true_eq_false, if_true,
      if_false, Option.pure_def]
  | case3 a b =>
    have ha := a.toNat_lt
    have hb := b.toNat_lt
    rw [encode, decode, bits_character _ (by omega), bits_character _ (by omega),
      bits_character _ (by omega)]
    have hfirst : UInt8.ofNat
        (a.toNat / 4 * 4 + (a.toNat % 4 * 16 + b.toNat / 16) / 16) = a :=
      ofNat_toNat_split (by omega)
    have hsecond : UInt8.ofNat
        ((a.toNat % 4 * 16 + b.toNat / 16) % 16 * 16 + b.toNat % 16 * 4 / 4) = b :=
      ofNat_toNat_split (by omega)
    have hpad := character_ne_pad (b.toNat % 16 * 4) (by omega)
    simp only [Option.bind_eq_bind, Option.bind_some, hfirst, hsecond, hpad, ne_eq,
      not_true_eq_false, if_true, if_false, Option.pure_def]
  | case4 a b c rest ih =>
    have ha := a.toNat_lt
    have hb := b.toNat_lt
    have hc := c.toNat_lt
    rw [encode, decode, bits_character _ (by omega), bits_character _ (by omega),
      bits_character _ (by omega), bits_character _ (by omega), decode_tail, ih]
    have hfirst : UInt8.ofNat
        (a.toNat / 4 * 4 + (a.toNat % 4 * 16 + b.toNat / 16) / 16) = a :=
      ofNat_toNat_split (by omega)
    have hsecond : UInt8.ofNat ((a.toNat % 4 * 16 + b.toNat / 16) % 16 * 16 +
        (b.toNat % 16 * 4 + c.toNat / 64) / 4) = b :=
      ofNat_toNat_split (by omega)
    have hthird : UInt8.ofNat
        ((b.toNat % 16 * 4 + c.toNat / 64) % 4 * 64 + c.toNat % 64) = c :=
      ofNat_toNat_split (by omega)
    have hpad := character_ne_pad (c.toNat % 64) (by omega)
    simp only [Option.bind_eq_bind, Option.bind_some, hfirst, hsecond, hthird, hpad, if_false,
      Option.pure_def]

example : decode ['Q', 'U', 'J', 'D', '=', '='] = some [65, 66, 67] := by decide

end Base64
