import Etzio.JsonText

/-!
# Canonical JSON

`canonical_dumps` and `strict_loads` with the protocol's limits. A value that
`_normalize_json` accepts is `Admitted` : inside every ceiling, with its members in the order
of distinct keys. An admitted value is its own normal form and reads back from its canonical
bytes (`canonical_codec`). Whatever `strict_loads` accepts has canonical bytes, and they are
no longer than the bytes it was read from.

NFC normalization is the predicate `nfc` of the strings that it leaves alone.
-/

open CheckedRun JsonText

namespace Etzio

/-! ## Limits -/

def maxWireBytes : ℕ := 16 * 1024 * 1024

def maxStringCodepoints : ℕ := 1000000

def maxKeyCodepoints : ℕ := 128

def maxContainerItems : ℕ := 10000

def maxTotalNodes : ℕ := 100000

def maxNestingDepth : ℕ := 64

def minInteger : ℤ := -2 ^ 63

def maxInteger : ℤ := 2 ^ 63 - 1

variable (nfc : String → Bool)

/-! ## Strings and keys -/

def isAscii (s : String) : Bool := s.toList.all fun c => c.toNat < 128

/-- `_validate_string`. -/
def validateString (value path : String) : Except String String := do
  refuseIf (value.length > maxStringCodepoints)
    (path ++ ": string exceeds the protocol length ceiling")
  if isAscii value then return value
  refuseIf (nfc value = false) (path ++ ": strings must already be NFC-normalized")
  return value

def isLowerAlnum (c : Char) : Bool := ('a' ≤ c ∧ c ≤ 'z') || ('0' ≤ c ∧ c ≤ '9')

/-- The rest of a snake case word, after a letter or a digit. -/
def isSnakeTail : List Char → Bool
  | [] => true
  | c :: rest =>
    if c = '_' then
      match rest with
      | [] => false
      | c :: rest => isLowerAlnum c && isSnakeTail rest
    else isLowerAlnum c && isSnakeTail rest

/-- `_KEY_PATTERN` : words of lower-case letters and digits, joined by underscores, the first
of which starts with a letter. -/
def isSnakeCase (s : String) : Bool :=
  match s.toList with
  | [] => false
  | c :: rest => ('a' ≤ c ∧ c ≤ 'z') && isSnakeTail rest

/-- `_validate_key`. -/
def validateKey (key path : String) : Except String String := do
  let key ← validateString nfc key path
  refuseIf (key.length > maxKeyCodepoints)
    (path ++ ": object key exceeds the protocol length ceiling")
  refuseIf (isSnakeCase key = false) (path ++ ": object keys must be ASCII snake_case")
  return key

/-! ## Normalization -/

/-- The count of a node at a depth. -/
def enterNode (path : String) (depth count : ℕ) : Except String ℕ := do
  refuseIf (depth > maxNestingDepth) (path ++ ": value exceeds the protocol nesting ceiling")
  refuseIf (count + 1 > maxTotalNodes) (path ++ ": value exceeds the protocol node-count ceiling")
  return count + 1

/-- The assignment of a value to a key of a dictionary. -/
def setItem {α : Type} (key : String) (value : α) : List (String × α) → List (String × α)
  | [] => [(key, value)]
  | m :: members => if m.1 = key then (key, value) :: members else m :: setItem key value members

mutual

/-- `_normalize_json` : the normalized value and the count of the nodes so far. -/
def normalizeJson : Json → String → ℕ → ℕ → Except String (Json × ℕ)
  | .null, path, depth, count => do
    let count ← enterNode path depth count
    return (.null, count)
  | .bool value, path, depth, count => do
    let count ← enterNode path depth count
    return (.bool value, count)
  | .int value, path, depth, count => do
    let count ← enterNode path depth count
    refuseIf (value < minInteger ∨ value > maxInteger)
      (path ++ ": integer exceeds the signed 64-bit protocol range")
    return (.int value, count)
  | .str value, path, depth, count => do
    let count ← enterNode path depth count
    let value ← validateString nfc value path
    return (.str value, count)
  | .arr items, path, depth, count => do
    let count ← enterNode path depth count
    refuseIf (items.length > maxContainerItems)
      (path ++ ": array exceeds the protocol item-count ceiling")
    let (items, count) ← normalizeItems items path 0 (depth + 1) count
    return (.arr items, count)
  | .obj members, path, depth, count => do
    let count ← enterNode path depth count
    refuseIf (members.length > maxContainerItems)
      (path ++ ": object exceeds the protocol member-count ceiling")
    let (normalized, count) ← normalizeMembers members path (depth + 1) count []
    return (.obj (sortMembers normalized), count)

def normalizeItems : List Json → String → ℕ → ℕ → ℕ → Except String (List Json × ℕ)
  | [], _, _, _, count => .ok ([], count)
  | item :: items, path, index, depth, count => do
    let (item, count) ← normalizeJson item (path ++ "[" ++ toString index ++ "]") depth count
    let (items, count) ← normalizeItems items path (index + 1) depth count
    return (item :: items, count)

def normalizeMembers : List (String × Json) → String → ℕ → ℕ → List (String × Json) →
    Except String (List (String × Json) × ℕ)
  | [], _, _, count, normalized => .ok (normalized, count)
  | (rawKey, item) :: members, path, depth, count, normalized => do
    let key ← validateKey nfc rawKey (path ++ ".<key>")
    let (item, count) ← normalizeJson item (path ++ "." ++ key) depth count
    normalizeMembers members path depth count (setItem key item normalized)

end

/-- The normalized value. -/
def normalized (value : Json) : Except String Json := do
  let (value, _) ← normalizeJson nfc value "$" 0 0
  return value

/-! ## The codec -/

/-- The bytes of a value's text. -/
def encoded (value : Json) : ByteArray := (String.ofList (dumps value)).toByteArray

/-- `canonical_dumps`. -/
def canonicalDumps (value : Json) : Except String ByteArray := do
  let value ← normalized nfc value
  refuseIf ((encoded value).size > maxWireBytes)
    "canonical JSON exceeds the protocol wire-byte ceiling"
  return encoded value

/-- The value of an integer token. -/
def integerOf (token : String) : ℤ :=
  match token.toList with
  | '-' :: digits => -(Nat.ofDigitChars 10 digits 0 : ℤ)
  | digits => Nat.ofDigitChars 10 digits 0

/-- `_parse_int`. -/
def parseInt (token : String) : Except String ℤ := do
  let digits := if token.toList.head? = some '-' then token.toList.tail else token.toList
  refuseIf (digits.length > 19) "integer exceeds the signed 64-bit protocol range"
  refuseIf (integerOf token < minInteger ∨ integerOf token > maxInteger)
    "integer exceeds the signed 64-bit protocol range"
  return integerOf token

/-- `_unique_object`. -/
def uniqueObject (pairs : List (String × Json)) : Except String (List (String × Json)) :=
  pairs.foldlM (fun value pair => do
    refuseIf (pair.1 ∈ value.map Prod.fst) "duplicate object key"
    return value ++ [pair]) []

/-- The hooks of `strict_loads`. -/
def strictHooks : Hooks String where
  invalid := "invalid protocol JSON"
  surrogate := "Unicode surrogate code points are forbidden"
  parseInt := parseInt
  parseFloat token := "floating-point number '" ++ token ++ "' is forbidden"
  parseConstant token := "non-standard numeric constant '" ++ token ++ "' is forbidden"
  objectPairs := uniqueObject

/-- `strict_loads` of bytes. -/
def strictLoads (data : ByteArray) : Except String Json := do
  refuseIf (data.size > maxWireBytes) "wire input exceeds the protocol byte ceiling"
  let text ← orRefuse (String.fromUTF8? data) "wire bytes must be valid UTF-8"
  let value ← loads strictHooks text.toList
  normalized nfc value

/-! ## Admitted values -/

/-- The strings that `_validate_string` returns. -/
def ValidString (s : String) : Prop :=
  s.length ≤ maxStringCodepoints ∧ (isAscii s = true ∨ nfc s = true)

/-- The keys that `_validate_key` returns. -/
def ValidKey (key : String) : Prop :=
  ValidString nfc key ∧ key.length ≤ maxKeyCodepoints ∧ isSnakeCase key = true

theorem validString_of_ascii {nfc : String → Bool} {s : String} (hascii : isAscii s = true)
    (hlength : s.length ≤ maxStringCodepoints) : ValidString nfc s :=
  ⟨hlength, Or.inl hascii⟩

/-- The values that normalization returns at a depth : inside every ceiling, with the members
in the order of distinct keys. -/
inductive Admitted : ℕ → Json → Prop
  | null {depth : ℕ} (hdepth : depth ≤ maxNestingDepth) : Admitted depth .null
  | bool {depth : ℕ} (hdepth : depth ≤ maxNestingDepth) (b : Bool) : Admitted depth (.bool b)
  | int {depth : ℕ} (hdepth : depth ≤ maxNestingDepth) {n : ℤ} (hmin : minInteger ≤ n)
      (hmax : n ≤ maxInteger) : Admitted depth (.int n)
  | str {depth : ℕ} (hdepth : depth ≤ maxNestingDepth) {s : String} (hs : ValidString nfc s) :
      Admitted depth (.str s)
  | arr {depth : ℕ} (hdepth : depth ≤ maxNestingDepth) {items : List Json}
      (hlength : items.length ≤ maxContainerItems)
      (hitems : ∀ v ∈ items, Admitted (depth + 1) v) : Admitted depth (.arr items)
  | obj {depth : ℕ} (hdepth : depth ≤ maxNestingDepth) {members : List (String × Json)}
      (hlength : members.length ≤ maxContainerItems)
      (hkeys : ∀ m ∈ members, ValidKey nfc m.1)
      (hsorted : members.Pairwise fun a b => a.1 < b.1)
      (hmembers : ∀ m ∈ members, Admitted (depth + 1) m.2) : Admitted depth (.obj members)

mutual

/-- The number of nodes of a value. -/
def nodes : Json → ℕ
  | .arr items => 1 + nodesItems items
  | .obj members => 1 + nodesMembers members
  | _ => 1

def nodesItems : List Json → ℕ
  | [] => 0
  | v :: items => nodes v + nodesItems items

def nodesMembers : List (String × Json) → ℕ
  | [] => 0
  | (_, v) :: members => nodes v + nodesMembers members

end

theorem nodesMembers_eq_sum (members : List (String × Json)) :
    nodesMembers members = (members.map fun m => nodes m.2).sum := by
  induction members with
  | nil => simp [nodesMembers]
  | cons m members ih => simp [nodesMembers, ih]

theorem nodes_member_le {members : List (String × Json)} {m : String × Json} (hm : m ∈ members) :
    nodes m.2 < nodes (.obj members) := by
  obtain ⟨before, after, rfl⟩ := List.append_of_mem hm
  simp only [nodes, nodesMembers_eq_sum, List.map_append, List.map_cons, List.sum_append,
    List.sum_cons]
  omega

variable {nfc}

theorem validateString_eq_ok {s t path : String} :
    validateString nfc s path = .ok t ↔ t = s ∧ ValidString nfc s := by
  rw [validateString, unit_bind_eq_ok, refuseIf_eq_ok, not_lt, ValidString]
  have hreturn : (pure s : Except String String) = .ok t ↔ t = s := by
    simp [pure, Except.pure, eq_comm]
  cases hascii : isAscii s with
  | true =>
    rw [if_pos rfl, hreturn]
    tauto
  | false =>
    rw [if_neg (by simp), unit_bind_eq_ok, refuseIf_eq_ok, hreturn]
    simp only [Bool.not_eq_false, Bool.false_eq_true, false_or]
    tauto

theorem validateKey_eq_ok {key t path : String} :
    validateKey nfc key path = .ok t ↔ t = key ∧ ValidKey nfc key := by
  rw [validateKey, bind_eq_ok, ValidKey]
  constructor
  · rintro ⟨s, hs, hrest⟩
    obtain ⟨rfl, hvalid⟩ := validateString_eq_ok.mp hs
    simp only [unit_bind_eq_ok, refuseIf_eq_ok, not_lt, Bool.not_eq_false] at hrest
    obtain ⟨hlength, hsnake, hreturn⟩ := hrest
    exact ⟨(Except.ok.inj hreturn).symm, hvalid, hlength, hsnake⟩
  · rintro ⟨rfl, hvalid, hlength, hsnake⟩
    refine ⟨t, validateString_eq_ok.mpr ⟨rfl, hvalid⟩, ?_⟩
    simp only [unit_bind_eq_ok, refuseIf_eq_ok, not_lt, Bool.not_eq_false]
    exact ⟨hlength, hsnake, rfl⟩

theorem enterNode_eq_ok {path : String} {depth count count' : ℕ} :
    enterNode path depth count = .ok count' ↔
      depth ≤ maxNestingDepth ∧ count + 1 ≤ maxTotalNodes ∧ count' = count + 1 := by
  simp only [enterNode, unit_bind_eq_ok, refuseIf_eq_ok, not_lt]
  refine and_congr_right fun _ => and_congr_right fun _ => ?_
  simp [pure, Except.pure, eq_comm]

/-! ### Assignments -/

theorem mem_setItem {α : Type} {key : String} {value : α} {members : List (String × α)}
    {m : String × α} (hm : m ∈ setItem key value members) : m = (key, value) ∨ m ∈ members := by
  induction members with
  | nil => exact Or.inl (by simpa [setItem] using hm)
  | cons n members ih =>
    rw [setItem] at hm
    split_ifs at hm with hkey <;> rcases List.mem_cons.mp hm with rfl | hm
    · exact Or.inl rfl
    · exact Or.inr (List.mem_cons_of_mem _ hm)
    · exact Or.inr List.mem_cons_self
    · rcases ih hm with rfl | hm
      · exact Or.inl rfl
      · exact Or.inr (List.mem_cons_of_mem _ hm)

/-- An assignment keeps the keys distinct. -/
theorem nodup_setItem {α : Type} {key : String} {value : α} {members : List (String × α)}
    (hnodup : members.Pairwise fun a b => a.1 ≠ b.1) :
    (setItem key value members).Pairwise fun a b => a.1 ≠ b.1 := by
  induction members with
  | nil => simp [setItem]
  | cons m members ih =>
    obtain ⟨hm, hmembers⟩ := List.pairwise_cons.mp hnodup
    rw [setItem]
    split_ifs with hkey
    · exact List.pairwise_cons.mpr ⟨fun n hn => hkey ▸ hm n hn, hmembers⟩
    · refine List.pairwise_cons.mpr ⟨fun n hn => ?_, ih hmembers⟩
      rcases mem_setItem hn with rfl | hn
      · exact hkey
      · exact hm n hn

/-- A key that is not there yet is added at the end. -/
theorem setItem_of_fresh {α : Type} {key : String} {value : α} {members : List (String × α)}
    (hfresh : ∀ m ∈ members, m.1 ≠ key) :
    setItem key value members = members ++ [(key, value)] := by
  induction members with
  | nil => rfl
  | cons m members ih =>
    rw [setItem, if_neg (hfresh m (by simp)), ih fun n hn => hfresh n (List.mem_cons_of_mem _ hn)]
    rfl

/-- A weight of the members grows by no more than the new one's. -/
theorem sum_setItem_le {α : Type} (weight : String × α → ℕ) (key : String) (value : α)
    (members : List (String × α)) :
    ((setItem key value members).map weight).sum ≤
      (members.map weight).sum + weight (key, value) := by
  induction members with
  | nil => simp [setItem]
  | cons m members ih =>
    rw [setItem]
    split_ifs with hkey <;> simp only [List.map_cons, List.sum_cons] <;> omega

theorem length_setItem_le {α : Type} (key : String) (value : α) (members : List (String × α)) :
    (setItem key value members).length ≤ members.length + 1 := by
  simpa using sum_setItem_le (fun _ => 1) key value members

/-! ### Normalization returns admitted values -/

/-- What normalization returns : an admitted value, with its nodes counted, whose text is no
longer than the text of the value it was made from. -/
structure Normalizes (nfc : String → Bool) (v : Json) (depth count : ℕ) (w : Json) (count' : ℕ) :
    Prop where
  admitted : Admitted nfc depth w
  nodes : count + nodes w ≤ count'
  bound : count' ≤ maxTotalNodes
  size : textSize (dumps w) ≤ textSize (dumps v)

/-- The items of an array, when each of them normalizes so. -/
theorem normalizeItems_spec {items : List Json} {depth : ℕ}
    (hitems : ∀ v ∈ items, ∀ path count w count', normalizeJson nfc v path depth count =
      .ok (w, count') → Normalizes nfc v depth count w count') :
    ∀ path index count ws count', count ≤ maxTotalNodes →
      normalizeItems nfc items path index depth count = .ok (ws, count') →
      ws.length = items.length ∧ (∀ w ∈ ws, Admitted nfc depth w) ∧
        count + nodesItems ws ≤ count' ∧ count' ≤ maxTotalNodes ∧
        (ws.map fun v => textSize (dumps v) + 1).sum ≤
          (items.map fun v => textSize (dumps v) + 1).sum := by
  induction items with
  | nil =>
    intro path index count ws count' hcount hs
    rw [normalizeItems] at hs
    obtain ⟨rfl, rfl⟩ := Prod.mk.inj (Except.ok.inj hs)
    simpa [nodesItems] using hcount
  | cons v items ih =>
    intro path index count ws count' hcount hs
    rw [normalizeItems] at hs
    obtain ⟨⟨w, count₁⟩, hw, hs⟩ := bind_eq_ok.mp hs
    obtain ⟨⟨ws', count₂⟩, hws, hs⟩ := bind_eq_ok.mp hs
    obtain ⟨rfl, rfl⟩ := Prod.mk.inj (Except.ok.inj hs)
    have hv := hitems v (by simp) _ _ _ _ hw
    obtain ⟨hlength, hadmitted, hnodes, hbound, hsize⟩ :=
      ih (fun x hx => hitems x (List.mem_cons_of_mem _ hx)) _ _ _ _ _ hv.bound hws
    have hnodes' := hv.nodes
    have hsize' := hv.size
    simp only [nodesItems, List.length_cons, List.forall_mem_cons, List.map_cons, List.sum_cons]
    exact ⟨by omega, ⟨hv.admitted, hadmitted⟩, by omega, hbound, by omega⟩

/-- The members of an object, when each of them normalizes so. -/
theorem normalizeMembers_spec {members : List (String × Json)} {depth : ℕ}
    (hmembers : ∀ m ∈ members, ∀ path count w count', normalizeJson nfc m.2 path depth count =
      .ok (w, count') → Normalizes nfc m.2 depth count w count') :
    ∀ path count normal ms count', count ≤ maxTotalNodes →
      normalizeMembers nfc members path depth count normal = .ok (ms, count') →
      (normal.Pairwise fun a b => a.1 ≠ b.1) →
      (∀ m ∈ normal, ValidKey nfc m.1 ∧ Admitted nfc depth m.2) →
      (ms.Pairwise fun a b => a.1 ≠ b.1) ∧
        (∀ m ∈ ms, ValidKey nfc m.1 ∧ Admitted nfc depth m.2) ∧
        ms.length ≤ normal.length + members.length ∧
        count + nodesMembers ms ≤ count' + nodesMembers normal ∧ count' ≤ maxTotalNodes ∧
        (ms.map fun m => textSize (dumpsMember m) + 1).sum ≤
          (normal.map fun m => textSize (dumpsMember m) + 1).sum +
            (members.map fun m => textSize (dumpsMember m) + 1).sum := by
  induction members with
  | nil =>
    intro path count normal ms count' hcount hs hnodup hnormal
    rw [normalizeMembers] at hs
    obtain ⟨rfl, rfl⟩ := Prod.mk.inj (Except.ok.inj hs)
    exact ⟨hnodup, hnormal, by simp, le_rfl, hcount, by simp⟩
  | cons m members ih =>
    intro path count normal ms count' hcount hs hnodup hnormal
    obtain ⟨rawKey, v⟩ := m
    rw [normalizeMembers] at hs
    obtain ⟨key, hkey, hrest⟩ := bind_eq_ok.mp hs
    obtain ⟨rfl, hvalid⟩ := validateKey_eq_ok.mp hkey
    obtain ⟨⟨w, count₁⟩, hw, hloop⟩ := bind_eq_ok.mp hrest
    have hv := hmembers (key, v) (by simp) _ _ _ _ hw
    obtain ⟨hnodup', hms, hlength, hnodes, hbound, hsize⟩ :=
      ih (fun x hx => hmembers x (List.mem_cons_of_mem _ hx)) _ _ _ _ _ hv.bound hloop
        (nodup_setItem hnodup) (fun x hx => by
          rcases mem_setItem hx with rfl | hx
          · exact ⟨hvalid, hv.admitted⟩
          · exact hnormal x hx)
    have hlength' := length_setItem_le key w normal
    have hnodes' := sum_setItem_le (fun m => nodes m.2) key w normal
    have hsize' := sum_setItem_le (fun m => textSize (dumpsMember m) + 1) key w normal
    have hsize'' := hv.size
    have hnodes'' := hv.nodes
    rw [← nodesMembers_eq_sum, ← nodesMembers_eq_sum] at hnodes'
    simp only [List.length_cons, List.map_cons, List.sum_cons]
    simp only [dumpsMember, textSize_append, textSize_cons] at hsize hsize' hsize'' hnodes' ⊢
    exact ⟨hnodup', hms, by omega, by omega, hbound, by omega⟩

/-- Sorting distinct keys. -/
theorem sortMembers_spec {α : Type} {members : List (String × α)}
    (hnodup : members.Pairwise fun a b => a.1 ≠ b.1) :
    (sortMembers members).Perm members ∧ (sortMembers members).Pairwise fun a b => a.1 < b.1 := by
  have hperm := List.perm_insertionSort (fun a b : String × α => a.1 ≤ b.1) members
  refine ⟨hperm, ?_⟩
  have hle : (sortMembers members).Pairwise fun a b => a.1 ≤ b.1 :=
    List.pairwise_insertionSort _ _
  have hne : (sortMembers members).Pairwise fun a b => a.1 ≠ b.1 :=
    hperm.symm.pairwise hnodup fun h => h.symm
  exact (hle.and hne).imp fun h => lt_of_le_of_ne h.1 h.2

/-- Normalization returns an admitted value. -/
theorem normalizeJson_spec (v : Json) : ∀ path depth count w count',
    normalizeJson nfc v path depth count = .ok (w, count') →
      Normalizes nfc v depth count w count' := by
  induction v using Json.nested with
  | null =>
    intro path depth count w count' hs
    rw [normalizeJson] at hs
    obtain ⟨_, hnode, hrest⟩ := bind_eq_ok.mp hs
    obtain ⟨hdepth, hbound, rfl⟩ := enterNode_eq_ok.mp hnode
    obtain ⟨rfl, rfl⟩ := Prod.mk.inj (Except.ok.inj hrest)
    exact ⟨.null hdepth, by simp [nodes], hbound, le_rfl⟩
  | bool b =>
    intro path depth count w count' hs
    rw [normalizeJson] at hs
    obtain ⟨_, hnode, hrest⟩ := bind_eq_ok.mp hs
    obtain ⟨hdepth, hbound, rfl⟩ := enterNode_eq_ok.mp hnode
    obtain ⟨rfl, rfl⟩ := Prod.mk.inj (Except.ok.inj hrest)
    exact ⟨.bool hdepth b, by simp [nodes], hbound, le_rfl⟩
  | int n =>
    intro path depth count w count' hs
    rw [normalizeJson] at hs
    obtain ⟨_, hnode, hrest⟩ := bind_eq_ok.mp hs
    obtain ⟨hdepth, hbound, rfl⟩ := enterNode_eq_ok.mp hnode
    obtain ⟨hrange, hreturn⟩ := unit_bind_eq_ok.mp hrest
    rw [refuseIf_eq_ok, not_or, not_lt, not_lt] at hrange
    obtain ⟨rfl, rfl⟩ := Prod.mk.inj (Except.ok.inj hreturn)
    exact ⟨.int hdepth hrange.1 hrange.2, by simp [nodes], hbound, le_rfl⟩
  | str s =>
    intro path depth count w count' hs
    rw [normalizeJson] at hs
    obtain ⟨_, hnode, hrest⟩ := bind_eq_ok.mp hs
    obtain ⟨hdepth, hbound, rfl⟩ := enterNode_eq_ok.mp hnode
    obtain ⟨t, ht, hreturn⟩ := bind_eq_ok.mp hrest
    obtain ⟨rfl, hvalid⟩ := validateString_eq_ok.mp ht
    obtain ⟨rfl, rfl⟩ := Prod.mk.inj (Except.ok.inj hreturn)
    exact ⟨.str hdepth hvalid, by simp [nodes], hbound, le_rfl⟩
  | arr items ih =>
    intro path depth count w count' hs
    rw [normalizeJson] at hs
    obtain ⟨_, hnode, hrest⟩ := bind_eq_ok.mp hs
    obtain ⟨hdepth, hbound, rfl⟩ := enterNode_eq_ok.mp hnode
    obtain ⟨hmany, hitems⟩ := unit_bind_eq_ok.mp hrest
    rw [refuseIf_eq_ok, not_lt] at hmany
    obtain ⟨⟨ws, count₁⟩, hws, hreturn⟩ := bind_eq_ok.mp hitems
    obtain ⟨rfl, rfl⟩ := Prod.mk.inj (Except.ok.inj hreturn)
    obtain ⟨hlength, hadmitted, hnodes, hbound', hsize⟩ :=
      normalizeItems_spec (fun v hv path count w count' => ih v hv path _ count w count')
        _ _ _ _ _ hbound hws
    refine ⟨.arr hdepth (hlength ▸ hmany) hadmitted, ?_, hbound', ?_⟩
    · rw [nodes]
      omega
    · rw [textSize_dumps_arr, textSize_dumps_arr, textSize_separated, textSize_separated,
        List.map_map, List.map_map]
      simp only [Function.comp_def]
      omega
  | obj members ih =>
    intro path depth count w count' hs
    rw [normalizeJson] at hs
    obtain ⟨_, hnode, hrest⟩ := bind_eq_ok.mp hs
    obtain ⟨hdepth, hbound, rfl⟩ := enterNode_eq_ok.mp hnode
    obtain ⟨hmany, hmembers⟩ := unit_bind_eq_ok.mp hrest
    rw [refuseIf_eq_ok, not_lt] at hmany
    obtain ⟨⟨ms, count₁⟩, hms, hreturn⟩ := bind_eq_ok.mp hmembers
    obtain ⟨rfl, rfl⟩ := Prod.mk.inj (Except.ok.inj hreturn)
    obtain ⟨hnodup, hadmitted, hlength, hnodes, hbound', hsize⟩ :=
      normalizeMembers_spec (fun m hm path count w count' => ih m hm path _ count w count')
        _ _ _ _ _ hbound hms List.Pairwise.nil (by simp)
    obtain ⟨hperm, hsorted⟩ := sortMembers_spec hnodup
    refine ⟨.obj hdepth ?_ (fun m hm => (hadmitted m (hperm.mem_iff.mp hm)).1) hsorted
      (fun m hm => (hadmitted m (hperm.mem_iff.mp hm)).2), ?_, hbound', ?_⟩
    · rw [hperm.length_eq]
      simp only [List.length_nil] at hlength
      omega
    · rw [nodes, nodesMembers_eq_sum, (hperm.map _).sum_nat, ← nodesMembers_eq_sum]
      simp only [nodesMembers] at hnodes
      omega
    · rw [textSize_dumps_obj, textSize_dumps_obj, textSize_separated_perm (hperm.map _),
        textSize_separated, textSize_separated, List.map_map, List.map_map]
      simp only [List.map_nil, List.sum_nil, zero_add] at hsize
      simp only [Function.comp_def]
      omega

/-! ### Admitted values are normal -/

theorem normalizeItems_of_admitted {items : List Json} {depth : ℕ}
    (hitems : ∀ v ∈ items, ∀ path count, count + nodes v ≤ maxTotalNodes →
      normalizeJson nfc v path depth count = .ok (v, count + nodes v)) :
    ∀ path index count, count + nodesItems items ≤ maxTotalNodes →
      normalizeItems nfc items path index depth count =
        .ok (items, count + nodesItems items) := by
  induction items with
  | nil => simp [normalizeItems, nodesItems]
  | cons v items ih =>
    intro path index count hbound
    rw [nodesItems] at hbound ⊢
    have hv := hitems v (by simp) (path ++ "[" ++ toString index ++ "]") count (by omega)
    have hrest := ih (fun x hx => hitems x (List.mem_cons_of_mem _ hx)) path (index + 1)
      (count + nodes v) (by omega)
    rw [normalizeItems, bind_of_ok hv]
    simp only
    rw [bind_of_ok hrest, Nat.add_assoc]
    rfl

/-- Members that normalize each to its own value, by any function of it. -/
theorem normalizeMembers_each {w : Json → Json} {members : List (String × Json)} {depth : ℕ}
    (hkeys : ∀ m ∈ members, ValidKey nfc m.1)
    (hmembers : ∀ m ∈ members, ∀ path count, count + nodes m.2 ≤ maxTotalNodes →
      normalizeJson nfc m.2 path depth count = .ok (w m.2, count + nodes m.2)) :
    ∀ path count normal, count + nodesMembers members ≤ maxTotalNodes →
      (normal ++ members).Pairwise (fun a b => a.1 ≠ b.1) →
      normalizeMembers nfc members path depth count normal =
        .ok (normal ++ members.map fun m => (m.1, w m.2), count + nodesMembers members) := by
  induction members with
  | nil => simp [normalizeMembers, nodesMembers]
  | cons m members ih =>
    obtain ⟨key, v⟩ := m
    intro path count normal hbound hnodup
    rw [nodesMembers] at hbound ⊢
    have hkey : validateKey nfc key (path ++ ".<key>") = .ok key :=
      validateKey_eq_ok.mpr ⟨rfl, hkeys (key, v) (by simp)⟩
    have hv := hmembers (key, v) (by simp) (path ++ "." ++ key) count (by simp only; omega)
    have hfresh : ∀ m ∈ normal, m.1 ≠ key := fun m hm =>
      (List.pairwise_append.mp hnodup).2.2 m hm (key, v) (by simp)
    have hnodup' : (normal ++ [(key, w v)] ++ members).Pairwise fun a b => a.1 ≠ b.1 := by
      rw [List.append_assoc]
      rw [← List.pairwise_map (f := Prod.fst)] at hnodup ⊢
      simpa using hnodup
    have hrest := ih (fun x hx => hkeys x (List.mem_cons_of_mem _ hx))
      (fun x hx => hmembers x (List.mem_cons_of_mem _ hx)) path (count + nodes v)
      (normal ++ [(key, w v)]) (by omega) hnodup'
    rw [normalizeMembers, bind_of_ok hkey, bind_of_ok hv]
    simp only
    rw [setItem_of_fresh hfresh, hrest, Nat.add_assoc]
    simp

/-- An admitted value is its own normal form. -/
theorem normalizeJson_of_admitted {depth : ℕ} {v : Json} (hv : Admitted nfc depth v) :
    ∀ path count, count + nodes v ≤ maxTotalNodes →
      normalizeJson nfc v path depth count = .ok (v, count + nodes v) := by
  have hnode : ∀ {path depth count}, depth ≤ maxNestingDepth → count + 1 ≤ maxTotalNodes →
      enterNode path depth count = .ok (count + 1) := fun hdepth hbound =>
    enterNode_eq_ok.mpr ⟨hdepth, hbound, rfl⟩
  induction hv with
  | null hdepth =>
    intro path count hbound
    rw [normalizeJson, bind_of_ok (hnode hdepth hbound)]
    rfl
  | bool hdepth b =>
    intro path count hbound
    rw [normalizeJson, bind_of_ok (hnode hdepth hbound)]
    rfl
  | int hdepth hmin hmax =>
    intro path count hbound
    rw [normalizeJson, bind_of_ok (hnode hdepth hbound),
      refuseIf_bind_of_not (not_or.mpr ⟨not_lt.mpr hmin, not_lt.mpr hmax⟩)]
    rfl
  | str hdepth hs =>
    intro path count hbound
    rw [normalizeJson, bind_of_ok (hnode hdepth hbound),
      bind_of_ok (validateString_eq_ok.mpr ⟨rfl, hs⟩)]
    rfl
  | arr hdepth hlength hitems ih =>
    intro path count hbound
    rw [nodes] at hbound ⊢
    have hloop := normalizeItems_of_admitted ih path 0 (count + 1) (by omega)
    rw [normalizeJson, bind_of_ok (hnode hdepth (by omega)),
      refuseIf_bind_of_not (not_lt.mpr hlength), bind_of_ok hloop, Nat.add_assoc]
    rfl
  | obj hdepth hlength hkeys hsorted hmembers ih =>
    intro path count hbound
    rw [nodes] at hbound ⊢
    have hloop := normalizeMembers_each (w := id) hkeys ih path (count + 1) [] (by omega)
      (by simpa using hsorted.imp ne_of_lt)
    rw [normalizeJson, bind_of_ok (hnode hdepth (by omega)),
      refuseIf_bind_of_not (not_lt.mpr hlength), bind_of_ok hloop, Nat.add_assoc]
    simp only [List.nil_append, id_eq, Prod.mk.eta, List.map_id']
    rw [sortMembers, List.Pairwise.insertionSort_eq (hsorted.imp le_of_lt)]
    rfl

/-! ### The normal form

What normalization returns does not depend on the path, the depth and the count. -/

mutual

/-- The value that normalization returns. -/
def normalForm : Json → Json
  | .null => .null
  | .bool b => .bool b
  | .int n => .int n
  | .str s => .str s
  | .arr items => .arr (normalFormItems items)
  | .obj members => .obj (sortMembers (normalFormMembers members []))

def normalFormItems : List Json → List Json
  | [] => []
  | v :: items => normalForm v :: normalFormItems items

def normalFormMembers : List (String × Json) → List (String × Json) → List (String × Json)
  | [], normal => normal
  | (key, v) :: members, normal => normalFormMembers members (setItem key (normalForm v) normal)

end

theorem normalizeItems_normalForm {items : List Json} {depth : ℕ}
    (hitems : ∀ v ∈ items, ∀ path count w count', normalizeJson nfc v path depth count =
      .ok (w, count') → w = normalForm v) :
    ∀ path index count ws count',
      normalizeItems nfc items path index depth count = .ok (ws, count') →
      ws = normalFormItems items := by
  induction items with
  | nil =>
    intro path index count ws count' hs
    rw [normalizeItems] at hs
    exact (Prod.mk.inj (Except.ok.inj hs)).1.symm
  | cons v items ih =>
    intro path index count ws count' hs
    rw [normalizeItems] at hs
    obtain ⟨⟨w, count₁⟩, hw, hrest⟩ := bind_eq_ok.mp hs
    obtain ⟨⟨ws', count₂⟩, hws, hreturn⟩ := bind_eq_ok.mp hrest
    obtain ⟨rfl, rfl⟩ := Prod.mk.inj (Except.ok.inj hreturn)
    rw [normalFormItems, hitems v (by simp) _ _ _ _ hw,
      ih (fun x hx => hitems x (List.mem_cons_of_mem _ hx)) _ _ _ _ _ hws]

theorem normalizeMembers_normalForm {members : List (String × Json)} {depth : ℕ}
    (hmembers : ∀ m ∈ members, ∀ path count w count', normalizeJson nfc m.2 path depth count =
      .ok (w, count') → w = normalForm m.2) :
    ∀ path count normal ms count',
      normalizeMembers nfc members path depth count normal = .ok (ms, count') →
      ms = normalFormMembers members normal := by
  induction members with
  | nil =>
    intro path count normal ms count' hs
    rw [normalizeMembers] at hs
    exact (Prod.mk.inj (Except.ok.inj hs)).1.symm
  | cons m members ih =>
    intro path count normal ms count' hs
    obtain ⟨rawKey, v⟩ := m
    rw [normalizeMembers] at hs
    obtain ⟨key, hkey, hrest⟩ := bind_eq_ok.mp hs
    obtain ⟨rfl, -⟩ := validateKey_eq_ok.mp hkey
    obtain ⟨⟨w, count₁⟩, hw, hloop⟩ := bind_eq_ok.mp hrest
    rw [normalFormMembers, ← hmembers (key, v) (by simp) _ _ _ _ hw]
    exact ih (fun x hx => hmembers x (List.mem_cons_of_mem _ hx)) _ _ _ _ _ hloop

theorem normalizeJson_normalForm (v : Json) : ∀ path depth count w count',
    normalizeJson nfc v path depth count = .ok (w, count') → w = normalForm v := by
  induction v using Json.nested with
  | arr items ih =>
    intro path depth count w count' hs
    rw [normalizeJson] at hs
    obtain ⟨_, -, hrest⟩ := bind_eq_ok.mp hs
    obtain ⟨-, hitems⟩ := unit_bind_eq_ok.mp hrest
    obtain ⟨⟨ws, count₁⟩, hws, hreturn⟩ := bind_eq_ok.mp hitems
    obtain ⟨rfl, rfl⟩ := Prod.mk.inj (Except.ok.inj hreturn)
    rw [normalForm, normalizeItems_normalForm
      (fun v hv path count w count' => ih v hv path _ count w count') _ _ _ _ _ hws]
  | obj members ih =>
    intro path depth count w count' hs
    rw [normalizeJson] at hs
    obtain ⟨_, -, hrest⟩ := bind_eq_ok.mp hs
    obtain ⟨-, hmembers⟩ := unit_bind_eq_ok.mp hrest
    obtain ⟨⟨ms, count₁⟩, hms, hreturn⟩ := bind_eq_ok.mp hmembers
    obtain ⟨rfl, rfl⟩ := Prod.mk.inj (Except.ok.inj hreturn)
    rw [normalForm, normalizeMembers_normalForm
      (fun m hm path count w count' => ih m hm path _ count w count') _ _ _ _ _ hms]
  | str s =>
    intro path depth count w count' hs
    rw [normalizeJson] at hs
    obtain ⟨_, -, hrest⟩ := bind_eq_ok.mp hs
    obtain ⟨t, ht, hreturn⟩ := bind_eq_ok.mp hrest
    obtain ⟨rfl, -⟩ := validateString_eq_ok.mp ht
    obtain ⟨rfl, rfl⟩ := Prod.mk.inj (Except.ok.inj hreturn)
    rw [normalForm]
  | int n =>
    intro path depth count w count' hs
    rw [normalizeJson] at hs
    obtain ⟨_, -, hrest⟩ := bind_eq_ok.mp hs
    obtain ⟨-, hreturn⟩ := unit_bind_eq_ok.mp hrest
    obtain ⟨rfl, rfl⟩ := Prod.mk.inj (Except.ok.inj hreturn)
    rw [normalForm]
  | _ =>
    intro path depth count w count' hs
    rw [normalizeJson] at hs
    obtain ⟨_, -, hreturn⟩ := bind_eq_ok.mp hs
    obtain ⟨rfl, rfl⟩ := Prod.mk.inj (Except.ok.inj hreturn)
    rw [normalForm]

/-! ### Values that normalize -/

/-- A value that normalizes at a depth, whenever there is room for its nodes. -/
def Normalizable (nfc : String → Bool) (depth : ℕ) (v : Json) : Prop :=
  ∀ path count, count + nodes v ≤ maxTotalNodes →
    normalizeJson nfc v path depth count = .ok (normalForm v, count + nodes v)

theorem Admitted.normalizable {depth : ℕ} {v : Json} (hv : Admitted nfc depth v) :
    Normalizable nfc depth v := by
  intro path count hcount
  have hok := normalizeJson_of_admitted hv path count hcount
  rw [hok, ← normalizeJson_normalForm v path depth count _ _ hok]

theorem Admitted.normalForm {depth : ℕ} {v : Json} (hv : Admitted nfc depth v)
    (hnodes : nodes v ≤ maxTotalNodes) : normalForm v = v :=
  (normalizeJson_normalForm v "$" depth 0 _ _
    (normalizeJson_of_admitted hv "$" 0 (by omega))).symm

/-- An object of distinct valid keys normalizes when its members do. -/
theorem normalizable_members {members : List (String × Json)} {depth : ℕ}
    (hdepth : depth ≤ maxNestingDepth) (hmany : members.length ≤ maxContainerItems)
    (hkeys : ∀ m ∈ members, ValidKey nfc m.1) (hnodup : members.Pairwise fun a b => a.1 ≠ b.1)
    (hmembers : ∀ m ∈ members, Normalizable nfc (depth + 1) m.2) :
    Normalizable nfc depth (.obj members) := by
  intro path count hcount
  rw [nodes] at hcount ⊢
  have hloop := normalizeMembers_each hkeys hmembers path (count + 1) [] (by omega)
    (by simpa using hnodup)
  have hok : normalizeJson nfc (.obj members) path depth count =
      .ok (.obj (sortMembers (members.map fun m => (m.1, normalForm m.2))),
        count + (1 + nodesMembers members)) := by
    rw [normalizeJson, bind_of_ok (enterNode_eq_ok.mpr ⟨hdepth, by omega, rfl⟩),
      refuseIf_bind_of_not (not_lt.mpr hmany), bind_of_ok hloop, Nat.add_assoc]
    rfl
  rw [hok, ← normalizeJson_normalForm _ path depth count _ _ hok]

/-- The normal form of an object of distinct keys. -/
theorem normalForm_members {members : List (String × Json)}
    (hnodup : members.Pairwise fun a b => a.1 ≠ b.1) :
    normalForm (.obj members) =
      .obj (sortMembers (members.map fun m => (m.1, normalForm m.2))) := by
  have hloop : ∀ normal : List (String × Json),
      (normal ++ members).Pairwise (fun a b => a.1 ≠ b.1) →
      normalFormMembers members normal = normal ++ members.map fun m => (m.1, normalForm m.2) := by
    induction members with
    | nil => simp [normalFormMembers]
    | cons m members ih =>
      obtain ⟨key, v⟩ := m
      intro normal hall
      have hfresh : ∀ m ∈ normal, m.1 ≠ key := fun m hm =>
        (List.pairwise_append.mp hall).2.2 m hm (key, v) (by simp)
      have hall' : (normal ++ [(key, normalForm v)] ++ members).Pairwise fun a b => a.1 ≠ b.1 := by
        rw [List.append_assoc]
        rw [← List.pairwise_map (f := Prod.fst)] at hall ⊢
        simpa using hall
      rw [normalFormMembers, setItem_of_fresh hfresh, ih (List.pairwise_cons.mp hnodup).2 _ hall']
      simp
  rw [normalForm, hloop [] (by simpa using hnodup), List.nil_append]

/-! ## The hooks -/

theorem integerOf_digits {digits : List Char} (hdigits : ∀ c ∈ digits, c.isDigit) :
    integerOf (String.ofList digits) = Nat.ofDigitChars 10 digits 0 := by
  rw [integerOf, String.toList_ofList]
  split
  · rename_i tail
    exact absurd (hdigits '-' (by simp)) (by decide)
  · rfl

theorem integerOf_minus (digits : List Char) :
    integerOf (String.ofList ('-' :: digits)) = -(Nat.ofDigitChars 10 digits 0 : ℤ) := by
  simp [integerOf]

theorem integerOf_dumpsInt (n : ℤ) : integerOf (String.ofList (dumpsInt n)) = n := by
  cases n with
  | ofNat n =>
    rw [dumpsInt, integerOf_digits (isDigit_toDigits n), Nat.ofDigitChars_ten_toDigits]
    rfl
  | negSucc n =>
    rw [dumpsInt, integerOf_minus, Nat.ofDigitChars_ten_toDigits]
    rfl

/-- The digits of a token after its sign. -/
theorem head_digits {digits : List Char} (hdigits : ∀ c ∈ digits, c.isDigit) :
    digits.head? ≠ some '-' := fun hhead =>
  absurd (hdigits '-' (List.mem_of_mem_head? hhead)) (by decide)

theorem length_toDigits {n : ℕ} (hn : n < 10 ^ 19) : (Nat.toDigits 10 n).length ≤ 19 :=
  (Nat.length_toDigits_le_iff (by decide) (by decide)).mpr hn

/-- A protocol integer's own digits are accepted. -/
theorem parseInt_dumpsInt {n : ℤ} (hmin : minInteger ≤ n) (hmax : n ≤ maxInteger) :
    parseInt (String.ofList (dumpsInt n)) = .ok n := by
  have hlength : (if (dumpsInt n).head? = some '-' then (dumpsInt n).tail else dumpsInt n).length
      ≤ 19 := by
    simp only [minInteger, maxInteger] at hmin hmax
    cases n with
    | ofNat n =>
      rw [dumpsInt, if_neg (head_digits (isDigit_toDigits n))]
      exact length_toDigits (by simp only [Int.ofNat_eq_natCast] at hmax; omega)
    | negSucc n =>
      rw [dumpsInt, if_pos (by simp)]
      exact length_toDigits (by omega)
  simp only [parseInt, String.toList_ofList, integerOf_dumpsInt]
  rw [refuseIf_bind_of_not (not_lt.mpr hlength),
    refuseIf_bind_of_not (not_or.mpr ⟨not_lt.mpr hmin, not_lt.mpr hmax⟩)]
  rfl

theorem ofDigitChars_lt {digits : List Char} (hdigits : ∀ c ∈ digits, c.isDigit) :
    Nat.ofDigitChars 10 digits 0 < 10 ^ digits.length := by
  induction digits with
  | nil => simp
  | cons c digits ih =>
    obtain ⟨hc, hdigits⟩ := List.forall_mem_cons.mp hdigits
    have hlt := ih hdigits
    have hdigit : c.toNat - '0'.toNat ≤ 9 := by
      have hle : c.toNat ≤ 57 := by
        simp only [Char.isDigit, Bool.and_eq_true, decide_eq_true_eq] at hc
        exact hc.2
      have hzero : '0'.toNat = 48 := rfl
      omega
    rw [Nat.ofDigitChars_cons, Nat.ofDigitChars_eq_ofDigitChars_zero, List.length_cons,
      Nat.pow_succ]
    have := Nat.mul_le_mul_left (10 ^ digits.length) hdigit
    simp only [Nat.mul_zero, Nat.zero_add]
    omega

theorem parseInt_eq_ok {token : String} {n : ℤ} (hn : parseInt token = .ok n) :
    n = integerOf token := by
  simp only [parseInt, unit_bind_eq_ok] at hn
  exact (Except.ok.inj hn.2.2).symm

theorem uniqueObject_loop {pairs acc members : List (String × Json)}
    (hacc : acc.Pairwise fun a b => a.1 ≠ b.1) :
    pairs.foldlM (fun value pair => do
      refuseIf (pair.1 ∈ value.map Prod.fst) "duplicate object key"
      return value ++ [pair]) acc = .ok members ↔
      members = acc ++ pairs ∧ (acc ++ pairs).Pairwise fun a b => a.1 ≠ b.1 := by
  induction pairs generalizing acc with
  | nil => simp [pure, Except.pure, eq_comm, hacc]
  | cons m pairs ih =>
    have hfresh : m.1 ∉ acc.map Prod.fst ↔ ∀ n ∈ acc, n.1 ≠ m.1 := by
      rw [List.mem_map, not_exists]
      exact forall_congr' fun n => not_and
    have hsnoc : (acc ++ [m]).Pairwise (fun a b => a.1 ≠ b.1) ↔ ∀ n ∈ acc, n.1 ≠ m.1 := by
      simp [List.pairwise_append, hacc]
    rw [List.foldlM_cons, bind_assoc, unit_bind_eq_ok, refuseIf_eq_ok, hfresh, pure_bind]
    constructor
    · rintro ⟨hm, hloop⟩
      simpa using (ih (hsnoc.mpr hm)).mp hloop
    · rintro ⟨rfl, hall⟩
      have hm : ∀ n ∈ acc, n.1 ≠ m.1 := fun n hn =>
        (List.pairwise_append.mp hall).2.2 n hn m (by simp)
      exact ⟨hm, (ih (hsnoc.mpr hm)).mpr (by simpa using hall)⟩

/-- `_unique_object` returns the pairs when their keys are distinct. -/
theorem uniqueObject_eq_ok {pairs members : List (String × Json)} :
    uniqueObject pairs = .ok members ↔
      members = pairs ∧ pairs.Pairwise fun a b => a.1 ≠ b.1 := by
  have hloop := @uniqueObject_loop pairs [] members List.Pairwise.nil
  rwa [List.nil_append] at hloop

/-- The digits of a token's value are no more than the token's. -/
theorem strictHooks_thrifty : strictHooks.Thrifty where
  int sign digits n hsign hne hdigits hn := by
    obtain rfl := parseInt_eq_ok hn
    have hlt := ofDigitChars_lt hdigits
    have hlength : (Nat.toDigits 10 (Nat.ofDigitChars 10 digits 0)).length ≤ digits.length :=
      (Nat.length_toDigits_le_iff (by decide) (List.length_pos_of_ne_nil hne)).mpr hlt
    have hsize := textSize_digits (isDigit_toDigits (Nat.ofDigitChars 10 digits 0))
    have hsize' := textSize_digits hdigits
    rcases hsign with rfl | rfl
    · rw [List.nil_append, integerOf_digits hdigits]
      change textSize (Nat.toDigits 10 _) ≤ _
      omega
    · rw [List.singleton_append, integerOf_minus]
      have hminus : Char.utf8Size '-' = 1 := rfl
      cases hvalue : Nat.ofDigitChars 10 digits 0 with
      | zero =>
        have hzero : textSize (dumpsInt (-((0 : ℕ) : ℤ))) = 1 := rfl
        simp only [textSize_cons, hminus]
        omega
      | succ k =>
        rw [hvalue] at hlength hsize
        change textSize ('-' :: Nat.toDigits 10 (k + 1)) ≤ _
        simp only [textSize_cons, textSize_nil]
        omega
  pairs _ _ hpairs := (uniqueObject_eq_ok.mp hpairs).1

/-- The hooks leave an admitted value alone. -/
theorem Admitted.readable {depth : ℕ} {v : Json} (hv : Admitted nfc depth v) :
    Readable strictHooks v := by
  induction hv with
  | null hdepth => exact .null
  | bool hdepth b => exact .bool b
  | int hdepth hmin hmax => exact .int (parseInt_dumpsInt hmin hmax)
  | str hdepth hs => exact .str _
  | arr hdepth hlength hitems ih => exact .arr ih
  | obj hdepth hlength hkeys hsorted hmembers ih =>
    exact .obj (hsorted.imp le_of_lt)
      (uniqueObject_eq_ok.mpr ⟨rfl, hsorted.imp ne_of_lt⟩) ih

/-! ## The codec -/

theorem size_encoded (v : Json) : (encoded v).size = textSize (dumps v) := by
  rw [encoded, ← utf8ByteSize_ofList, String.size_toByteArray]

theorem fromUTF8_encoded (v : Json) :
    String.fromUTF8? (encoded v) = some (String.ofList (dumps v)) := by
  rw [String.fromUTF8?, encoded, dif_pos (String.ofList (dumps v)).isValidUTF8]
  rfl

theorem normalized_eq_ok {v w : Json} :
    normalized nfc v = .ok w ↔ ∃ count, normalizeJson nfc v "$" 0 0 = .ok (w, count) := by
  rw [normalized, bind_eq_ok]
  constructor
  · rintro ⟨⟨w', count⟩, hw, hreturn⟩
    obtain rfl : w' = w := Except.ok.inj hreturn
    exact ⟨count, hw⟩
  · rintro ⟨count, hw⟩
    exact ⟨_, hw, rfl⟩

/-- A normalized value is admitted, and its own normal form. -/
theorem normalized_spec {v w : Json} (hw : normalized nfc v = .ok w) :
    Admitted nfc 0 w ∧ nodes w ≤ maxTotalNodes ∧ textSize (dumps w) ≤ textSize (dumps v) ∧
      normalized nfc w = .ok w := by
  obtain ⟨count, hcount⟩ := normalized_eq_ok.mp hw
  have hspec := normalizeJson_spec v _ _ _ _ _ hcount
  have hnodes : 0 + nodes w ≤ maxTotalNodes := hspec.nodes.trans hspec.bound
  exact ⟨hspec.admitted, by omega, hspec.size,
    normalized_eq_ok.mpr ⟨_, normalizeJson_of_admitted hspec.admitted _ _ hnodes⟩⟩

theorem normalized_normalForm {v w : Json} (hw : normalized nfc v = .ok w) : w = normalForm v := by
  obtain ⟨count, hcount⟩ := normalized_eq_ok.mp hw
  exact normalizeJson_normalForm v _ _ _ _ _ hcount

theorem canonicalDumps_eq_ok {v : Json} {b : ByteArray} :
    canonicalDumps nfc v = .ok b ↔
      ∃ w, normalized nfc v = .ok w ∧ (encoded w).size ≤ maxWireBytes ∧ b = encoded w := by
  rw [canonicalDumps, bind_eq_ok]
  refine exists_congr fun w => and_congr_right fun _ => ?_
  rw [unit_bind_eq_ok, refuseIf_eq_ok, not_lt]
  refine and_congr_right fun _ => ?_
  simp [pure, Except.pure, eq_comm]

theorem strictLoads_eq_ok {b : ByteArray} {w : Json} :
    strictLoads nfc b = .ok w ↔
      b.size ≤ maxWireBytes ∧ ∃ text, String.fromUTF8? b = some text ∧
        ∃ v, loads strictHooks text.toList = .ok v ∧ normalized nfc v = .ok w := by
  rw [strictLoads, unit_bind_eq_ok, refuseIf_eq_ok, not_lt, orRefuse_bind_eq_ok]
  refine and_congr_right fun _ => exists_congr fun text => and_congr_right fun _ => ?_
  rw [bind_eq_ok]

/-- The canonical bytes of a normalized value are read as the value. -/
theorem strictLoads_encoded {v : Json} (hnormal : normalized nfc v = .ok v)
    (hsize : (encoded v).size ≤ maxWireBytes) : strictLoads nfc (encoded v) = .ok v := by
  obtain ⟨hadmitted, -, -, -⟩ := normalized_spec hnormal
  refine strictLoads_eq_ok.mpr ⟨hsize, _, fromUTF8_encoded v, v, ?_, hnormal⟩
  rw [String.toList_ofList]
  exact loads_dumps hadmitted.readable

/-- The canonical bytes of a value are read as its normal form. -/
theorem strictLoads_canonicalDumps {v : Json} {b : ByteArray} (hb : canonicalDumps nfc v = .ok b) :
    strictLoads nfc b = .ok (normalForm v) := by
  obtain ⟨w, hw, hsize, rfl⟩ := canonicalDumps_eq_ok.mp hb
  rw [← normalized_normalForm hw]
  exact strictLoads_encoded (normalized_spec hw).2.2.2 hsize

/-- Values with the same canonical bytes have the same normal form. -/
theorem canonicalDumps_inj {v v' w w' : Json} {b : ByteArray} (hw : normalized nfc v = .ok w)
    (hw' : normalized nfc v' = .ok w') (hb : canonicalDumps nfc v = .ok b)
    (hb' : canonicalDumps nfc v' = .ok b) : w = w' := by
  obtain ⟨x, hx, hsize, rfl⟩ := canonicalDumps_eq_ok.mp hb
  obtain rfl : w = x := Except.ok.inj (hw.symm.trans hx)
  obtain ⟨x', hx', hsize', heq⟩ := canonicalDumps_eq_ok.mp hb'
  obtain rfl : w' = x' := Except.ok.inj (hw'.symm.trans hx')
  have hload := strictLoads_encoded (normalized_spec hw).2.2.2 hsize
  rw [heq] at hload
  exact Except.ok.inj (hload.symm.trans (strictLoads_encoded (normalized_spec hw').2.2.2 hsize'))

/-- What `strict_loads` returns is normalized, with a text no longer than what it read. -/
theorem strictLoads_spec {b : ByteArray} {w : Json} (hw : strictLoads nfc b = .ok w) :
    normalized nfc w = .ok w ∧ (encoded w).size ≤ b.size ∧ b.size ≤ maxWireBytes := by
  obtain ⟨hsize, text, htext, v, hv, hnormal⟩ := strictLoads_eq_ok.mp hw
  obtain ⟨-, -, hle, hself⟩ := normalized_spec hnormal
  have hload := loads_size strictHooks_thrifty hv
  have hbytes : textSize text.toList = b.size := by
    rw [← utf8ByteSize_ofList, String.ofList_toList, ← String.size_toByteArray]
    unfold String.fromUTF8? at htext
    split_ifs at htext with hvalid
    obtain rfl := Option.some.inj htext
    rfl
  refine ⟨hself, ?_, hsize⟩
  rw [size_encoded]
  omega

/-! ### Objects of scalars -/

/-- A string or an integer that is admitted at every depth. -/
inductive Scalar (nfc : String → Bool) : Json → Prop
  | str {s : String} (hs : ValidString nfc s) : Scalar nfc (.str s)
  | int {n : ℤ} (hmin : minInteger ≤ n) (hmax : n ≤ maxInteger) : Scalar nfc (.int n)

theorem Scalar.admitted {v : Json} (hv : Scalar nfc v) {depth : ℕ}
    (hdepth : depth ≤ maxNestingDepth) : Admitted nfc depth v ∧ nodes v = 1 := by
  cases hv with
  | str hs => exact ⟨.str hdepth hs, by simp [nodes]⟩
  | int hmin hmax => exact ⟨.int hdepth hmin hmax, by simp [nodes]⟩

theorem nodesMembers_scalars {members : List (String × Json)}
    (hscalars : ∀ m ∈ members, Scalar nfc m.2) : nodesMembers members = members.length := by
  induction members with
  | nil => rfl
  | cons m members ih =>
    have hm := ((hscalars m (by simp)).admitted (Nat.zero_le _)).2
    rw [nodesMembers, hm, ih fun n hn => hscalars n (List.mem_cons_of_mem _ hn), List.length_cons,
      Nat.add_comm]

/-- A value that is admitted at a depth is admitted above it. -/
theorem Admitted.above {depth : ℕ} {v : Json} (hv : Admitted nfc depth v) :
    ∀ {d : ℕ}, d ≤ depth → Admitted nfc d v := by
  induction hv with
  | null hdepth => exact fun hd => .null (hd.trans hdepth)
  | bool hdepth b => exact fun hd => .bool (hd.trans hdepth) b
  | int hdepth hmin hmax => exact fun hd => .int (hd.trans hdepth) hmin hmax
  | str hdepth hs => exact fun hd => .str (hd.trans hdepth) hs
  | arr hdepth hlength hitems ih =>
    exact fun hd => .arr (hd.trans hdepth) hlength fun v hv => ih v hv (Nat.add_le_add_right hd 1)
  | obj hdepth hlength hkeys hsorted hmembers ih =>
    exact fun hd => .obj (hd.trans hdepth) hlength hkeys hsorted
      fun m hm => ih m hm (Nat.add_le_add_right hd 1)

theorem Normalizable.normalized {v : Json} (hv : Normalizable nfc 0 v)
    (hnodes : nodes v ≤ maxTotalNodes) : normalized nfc v = .ok (normalForm v) :=
  normalized_eq_ok.mpr ⟨_, hv "$" 0 (by omega)⟩

/-- An object of admitted members with distinct valid keys is normalized by sorting it. -/
theorem normalized_members {members : List (String × Json)}
    (hkeys : ∀ m ∈ members, ValidKey nfc m.1) (hnodup : members.Pairwise fun a b => a.1 ≠ b.1)
    (hmembers : ∀ m ∈ members, Admitted nfc 1 m.2) (hmany : members.length ≤ maxContainerItems)
    (hnodes : nodes (.obj members) ≤ maxTotalNodes) :
    normalized nfc (.obj members) = .ok (.obj (sortMembers members)) := by
  have hself : ∀ m ∈ members, normalForm m.2 = m.2 := fun m hm =>
    (hmembers m hm).normalForm ((nodes_member_le hm).le.trans hnodes)
  have hnormal := normalizable_members (Nat.zero_le _) hmany hkeys hnodup
    fun m hm => (hmembers m hm).normalizable
  rw [hnormal.normalized hnodes, normalForm_members hnodup]
  exact congrArg (fun ms => Except.ok (Json.obj (sortMembers ms)))
    ((List.map_congr_left fun m hm => by rw [hself m hm]; rfl).trans (List.map_id _))

/-- An object of scalars with distinct valid keys is normalized by sorting it. -/
theorem normalized_scalars {members : List (String × Json)}
    (hkeys : ∀ m ∈ members, ValidKey nfc m.1) (hnodup : members.Pairwise fun a b => a.1 ≠ b.1)
    (hscalars : ∀ m ∈ members, Scalar nfc m.2) (hmany : members.length ≤ maxContainerItems) :
    normalized nfc (.obj members) = .ok (.obj (sortMembers members)) := by
  have hbudget : 1 + maxContainerItems ≤ maxTotalNodes := by decide
  refine normalized_members hkeys hnodup (fun m hm => ((hscalars m hm).admitted (by decide)).1)
    hmany ?_
  rw [nodes, nodesMembers_scalars hscalars]
  omega

theorem canonicalDumps_scalars {members : List (String × Json)}
    (hkeys : ∀ m ∈ members, ValidKey nfc m.1) (hnodup : members.Pairwise fun a b => a.1 ≠ b.1)
    (hscalars : ∀ m ∈ members, Scalar nfc m.2) (hmany : members.length ≤ maxContainerItems)
    (hsize : textSize (dumps (.obj members)) ≤ maxWireBytes) :
    canonicalDumps nfc (.obj members) = .ok (encoded (.obj (sortMembers members))) := by
  have hnormal := normalized_scalars hkeys hnodup hscalars hmany
  refine canonicalDumps_eq_ok.mpr ⟨_, hnormal, ?_, rfl⟩
  rw [size_encoded]
  exact (normalized_spec hnormal).2.2.1.trans hsize

/-- An admitted value is its own normal form. -/
theorem normalized_of_admitted {v : Json} (hv : Admitted nfc 0 v)
    (hnodes : nodes v ≤ maxTotalNodes) : normalized nfc v = .ok v :=
  normalized_eq_ok.mpr ⟨_, normalizeJson_of_admitted hv "$" 0 (by omega)⟩

/-- The fields of a record are plain keys in their order. -/
def PlainFields (fields : List String) : Prop :=
  fields.length ≤ maxContainerItems ∧ fields.Pairwise (· < ·) ∧
    ∀ key ∈ fields, isAscii key = true ∧ key.length ≤ maxKeyCodepoints ∧ isSnakeCase key = true

instance (fields : List String) : Decidable (PlainFields fields) :=
  inferInstanceAs (Decidable (_ ∧ _))

/-- A record of plain fields is admitted when its members are. -/
theorem admitted_record {fields : List String} {members : List (String × Json)} {depth : ℕ}
    (hplain : PlainFields fields) (hfields : members.map Prod.fst = fields)
    (hdepth : depth ≤ maxNestingDepth) (hmembers : ∀ m ∈ members, Admitted nfc (depth + 1) m.2) :
    Admitted nfc depth (.obj members) := by
  subst hfields
  obtain ⟨hlength, hsorted, hkeys⟩ := hplain
  refine .obj hdepth (by simpa using hlength) (fun m hm => ?_) (List.pairwise_map.mp hsorted)
    hmembers
  obtain ⟨hascii, hshort, hsnake⟩ := hkeys m.1 (List.mem_map_of_mem hm)
  exact ⟨validString_of_ascii hascii (hshort.trans (by decide)), hshort, hsnake⟩

/-- Whether a value is an ASCII text or an integer in bounds. -/
def isPlainScalar : Json → Bool
  | .str s => isAscii s && decide (s.length ≤ maxStringCodepoints)
  | .int n => decide (minInteger ≤ n) && decide (n ≤ maxInteger)
  | _ => false

theorem scalar_of_plain {v : Json} (hv : isPlainScalar v = true) : Scalar nfc v := by
  cases v with
  | str s =>
    simp only [isPlainScalar, Bool.and_eq_true, decide_eq_true_eq] at hv
    exact .str (validString_of_ascii hv.1 hv.2)
  | int n =>
    simp only [isPlainScalar, Bool.and_eq_true, decide_eq_true_eq] at hv
    exact .int hv.1 hv.2
  | _ => exact absurd hv (by simp [isPlainScalar])

/-- A record of plain fields and scalars is admitted. -/
theorem admitted_plain {members : List (String × Json)} {depth : ℕ}
    (hplain : PlainFields (members.map Prod.fst))
    (hscalars : (members.all fun m => isPlainScalar m.2) = true)
    (hdepth : depth < maxNestingDepth) :
    Admitted nfc depth (.obj members) :=
  admitted_record hplain rfl hdepth.le fun m hm =>
    ((scalar_of_plain (List.all_eq_true.mp hscalars m hm)).admitted hdepth).1

/-- A normalized value of a bounded weight has canonical bytes. -/
theorem canonicalDumps_weight {v : Json} (hnormal : normalized nfc v = .ok v)
    (hweight : weight v ≤ maxWireBytes) :
    canonicalDumps nfc v = .ok (encoded v) ∧ (encoded v).size ≤ weight v := by
  have hsize : (encoded v).size ≤ weight v := (size_encoded v).trans_le (textSize_dumps_le v)
  exact ⟨canonicalDumps_eq_ok.mpr ⟨v, hnormal, hsize.trans hweight, rfl⟩, hsize⟩

/-- The canonical codec : the canonical bytes of a value are read as its normal form, two
values with the same bytes have the same normal form, and what `strict_loads` accepts has
canonical bytes that are no longer and are their own canonical form. -/
theorem canonical_codec (nfc : String → Bool) :
    (∀ v w, normalized nfc v = .ok w → (encoded w).size ≤ maxWireBytes →
      ∃ b, canonicalDumps nfc v = .ok b ∧ strictLoads nfc b = .ok w) ∧
    (∀ v v' w w' b, normalized nfc v = .ok w → normalized nfc v' = .ok w' →
      canonicalDumps nfc v = .ok b → canonicalDumps nfc v' = .ok b → w = w') ∧
    ∀ b v, strictLoads nfc b = .ok v → ∃ c, canonicalDumps nfc v = .ok c ∧ c.size ≤ b.size ∧
      ∃ v', strictLoads nfc c = .ok v' ∧ canonicalDumps nfc v' = .ok c := by
  have hround : ∀ v w, normalized nfc v = .ok w → (encoded w).size ≤ maxWireBytes →
      canonicalDumps nfc v = .ok (encoded w) ∧ strictLoads nfc (encoded w) = .ok w := by
    intro v w hw hsize
    obtain ⟨-, -, -, hself⟩ := normalized_spec hw
    exact ⟨canonicalDumps_eq_ok.mpr ⟨w, hw, hsize, rfl⟩, strictLoads_encoded hself hsize⟩
  refine ⟨fun v w hw hsize => ⟨_, hround v w hw hsize⟩,
    fun v v' w w' b hw hw' hb hb' => canonicalDumps_inj hw hw' hb hb', fun b v hv => ?_⟩
  obtain ⟨hself, hle, hsize⟩ := strictLoads_spec hv
  obtain ⟨hdumps, hloads⟩ := hround v v hself (hle.trans hsize)
  exact ⟨_, hdumps, hle, v, hloads, hdumps⟩

/-- A value whose members are out of order. -/
def sampleValue : Json :=
  .obj [("size", .int (-2)), ("items", .arr [.str "x", .null, .bool true])]

/-- Its normal form. -/
def sampleNormal : Json :=
  .obj [("items", .arr [.str "x", .null, .bool true]), ("size", .int (-2))]

theorem normalized_sampleValue : normalized (fun _ => true) sampleValue = .ok sampleNormal := by
  rfl

theorem size_sampleNormal : (encoded sampleNormal).size ≤ maxWireBytes := by
  rw [size_encoded]
  decide +kernel

/-- An object with its members out of order. -/
theorem canonical_codec_sample :
    ∃ b, canonicalDumps (fun _ => true) sampleValue = .ok b ∧
      strictLoads (fun _ => true) b = .ok sampleNormal ∧
      (∀ v w, normalized (fun _ => true) v = .ok w → canonicalDumps (fun _ => true) v = .ok b →
        w = sampleNormal) ∧
      ∃ c, canonicalDumps (fun _ => true) sampleNormal = .ok c ∧ c.size ≤ b.size := by
  obtain ⟨hround, hinj, hload⟩ := canonical_codec fun _ => true
  obtain ⟨b, hb, hv⟩ := hround _ _ normalized_sampleValue size_sampleNormal
  obtain ⟨c, hc, hsize, -⟩ := hload b _ hv
  exact ⟨b, hb, hv, fun v w hw hd => hinj _ _ _ _ _ hw normalized_sampleValue hd hb, c, hc, hsize⟩

end Etzio
