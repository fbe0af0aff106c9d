import Mathlib
import Etzio.Delimiters
import Etzio.WireRecords

/-!
# The Python analyzer

`_scan_source` over the syntax tree of a module. The tree is what `ast.parse` returns, with the
classes of nodes that the detectors look at, the position of the nodes they report, and all other
classes as `other`. `walk` visits it level by level, and every node once (`walk_perm`).

A finding is known by its rule, its position and its symbol (`findingKey`). `findings_nodup_iff` :
the findings of any tree are pairwise distinct exactly when no assignment of a text has one secret
name twice (`TargetClash`), no call is reported like a call in its own receiver (`ReceiverClash`)
and no other two nodes are reported alike (`MisplacedClash`).

`Documented` is what the language promises of a tree : the nodes below different children come from
different tokens, the arguments of a call come after its function, and an assignment holds
expressions only. It excludes the third clash (`Documented.not_misplacedClash`). CPython 3.11 does
not keep it for a format string within another one that spans lines.
-/

namespace Etzio.Sast

/-! ## Syntax trees -/

/-- `lineno` and `col_offset`, in the order of the source. -/
abbrev Position : Type := ℕ ×ₗ ℕ

def Position.line (p : Position) : ℕ := (ofLex p).1

def Position.column (p : Position) : ℕ := (ofLex p).2

/-- The operators of a binary operation. -/
inductive BinOperator
  | add
  | mod
  | other
  deriving DecidableEq, Repr

/-- The values of a constant. -/
inductive Constant
  | str (value : String)
  | true
  | other
  deriving DecidableEq, Repr

/-- A syntax tree. -/
inductive Ast
  | name (id : String)
  | attribute (value : Ast) (attr : String)
  | constant (value : Constant)
  | joinedStr (values : List Ast)
  | formattedValue (children : List Ast)
  | binOp (left : Ast) (op : BinOperator) (right : Ast)
  | keyword (arg : Option String) (value : Ast)
  | call (position : Position) (func : Ast) (args keywords : List Ast)
  | assign (position : Position) (targets : List Ast) (value : Ast)
  | other (children : List Ast)

namespace Ast

/-- `ast.iter_child_nodes`. -/
def children : Ast → List Ast
  | .name _ => []
  | .attribute value _ => [value]
  | .constant _ => []
  | .joinedStr values => values
  | .formattedValue children => children
  | .binOp left _ right => [left, right]
  | .keyword _ value => [value]
  | .call _ func args keywords => func :: (args ++ keywords)
  | .assign _ targets value => targets ++ [value]
  | .other children => children

mutual

/-- A tree and everything below it. -/
def nodes : Ast → List Ast
  | .name id => [.name id]
  | .attribute value attr => .attribute value attr :: value.nodes
  | .constant value => [.constant value]
  | .joinedStr values => .joinedStr values :: nodesOf values
  | .formattedValue children => .formattedValue children :: nodesOf children
  | .binOp left op right => .binOp left op right :: (left.nodes ++ right.nodes)
  | .keyword arg value => .keyword arg value :: value.nodes
  | .call position func args keywords =>
    .call position func args keywords :: (func.nodes ++ (nodesOf args ++ nodesOf keywords))
  | .assign position targets value =>
    .assign position targets value :: (nodesOf targets ++ value.nodes)
  | .other children => .other children :: nodesOf children

def nodesOf : List Ast → List Ast
  | [] => []
  | t :: ts => t.nodes ++ nodesOf ts

end

theorem nodesOf_eq (ts : List Ast) : nodesOf ts = ts.flatMap nodes := by
  induction ts with
  | nil => rfl
  | cons t ts ih => rw [nodesOf, ih, List.flatMap_cons]

theorem nodes_eq (t : Ast) : t.nodes = t :: t.children.flatMap nodes := by
  cases t <;> simp [nodes, children, nodesOf_eq]

/-- Induction on a tree through its children. -/
theorem byChildren {motive : Ast → Prop}
    (step : ∀ t : Ast, (∀ c ∈ t.children, motive c) → motive t) (t : Ast) : motive t := by
  refine Ast.rec (motive_1 := motive) (motive_2 := fun ts => ∀ t ∈ ts, motive t)
    ?_ ?_ ?_ ?_ ?_ ?_ ?_ ?_ ?_ ?_ ?_ ?_ t
  · exact fun id => step _ (by simp [children])
  · exact fun value attr h => step _ (by simpa [children] using h)
  · exact fun value => step _ (by simp [children])
  · exact fun values h => step _ h
  · exact fun values h => step _ h
  · exact fun left op right hl hr => step _ (by simpa [children] using ⟨hl, hr⟩)
  · exact fun arg value h => step _ (by simpa [children] using h)
  · intro position func args keywords hf ha hk
    refine step _ fun c hc => ?_
    rcases List.mem_cons.mp hc with rfl | hc
    · exact hf
    · exact (List.mem_append.mp hc).elim (ha c) (hk c)
  · intro position targets value ht hv
    refine step _ fun c hc => (List.mem_append.mp hc).elim (ht c) fun hmem => ?_
    obtain rfl := List.mem_singleton.mp hmem
    exact hv
  · exact fun values h => step _ h
  · simp
  · exact fun t ts ht hts => List.forall_mem_cons.mpr ⟨ht, hts⟩

/-- The loop of `ast.walk` over the nodes that are still to do. -/
def walkFrom : ℕ → List Ast → List Ast
  | 0, _ => []
  | _ + 1, [] => []
  | n + 1, node :: todo => node :: walkFrom n (todo ++ node.children)

/-- `ast.walk`. Each node takes one turn. -/
def walk (t : Ast) : List Ast := walkFrom t.nodes.length [t]

theorem walkFrom_perm {n : ℕ} {todo : List Ast} (h : (todo.flatMap nodes).length ≤ n) :
    (walkFrom n todo).Perm (todo.flatMap nodes) := by
  induction n generalizing todo with
  | zero =>
    rw [List.length_eq_zero_iff.mp (Nat.le_zero.mp h)]
    exact .refl _
  | succ n ih =>
    cases todo with
    | nil => exact .refl _
    | cons node todo =>
      rw [List.flatMap_cons, nodes_eq] at h ⊢
      have hcount : ((todo ++ node.children).flatMap nodes).length ≤ n := by
        simp only [List.flatMap_append, List.length_append, List.cons_append,
          List.length_cons] at h ⊢
        omega
      rw [walkFrom, List.cons_append]
      refine ((ih hcount).trans ?_).cons node
      rw [List.flatMap_append]
      exact List.perm_append_comm

/-- The walk visits every node once. -/
theorem walk_perm (t : Ast) : t.walk.Perm t.nodes := by
  have h : (walkFrom t.nodes.length [t]).Perm ([t].flatMap nodes) := walkFrom_perm (by simp)
  rw [walk]
  simpa using h

end Ast

/-! ## Detectors -/

open Ast

/-- `StaticFinding`. -/
structure StaticFinding where
  ruleId : String
  severity : String
  message : String
  file : String
  line : ℕ
  column : ℕ
  symbol : String
  snippet : String
  deriving DecidableEq, Repr

/-- `_call_name`. -/
def callName : Ast → Option String
  | .name id => some id
  | .attribute (.name id) attr => some (id ++ "." ++ attr)
  | .attribute value attr =>
    match callName value with
    | some inner => if inner ≠ "" then some (inner ++ "." ++ attr) else some attr
    | none => some attr
  | _ => none

/-- `_is_literal`. -/
def isLiteral : Ast → Bool
  | .constant _ => true
  | _ => false

def isFormattedValue : Ast → Bool
  | .formattedValue _ => true
  | _ => false

/-- `_looks_dynamic_sql`. -/
def looksDynamicSql : Ast → Bool
  | .joinedStr values => values.any isFormattedValue
  | .binOp _ op _ => op = .add || op = .mod
  | .call _ (.attribute _ attr) _ _ => attr = "format"
  | _ => false

/-- `_SECRET_NAMES`. -/
def secretNames : List String :=
  ["password", "passwd", "secret", "api_key", "apikey", "token", "private_key", "access_key"]

/-- `_SUBPROCESS`. -/
def subprocessNames : List String :=
  ["subprocess.Popen", "subprocess.call", "subprocess.run", "subprocess.check_output"]

/-- A keyword `shell=True`. -/
def isShellTrue : Ast → Bool
  | .keyword (some "shell") (.constant .true) => true
  | _ => false

/-- A keyword `Loader`. -/
def isLoader : Ast → Bool
  | .keyword (some "Loader") _ => true
  | _ => false

/-- The rule, the severity, the message and the symbol of a report. -/
structure Report where
  ruleId : String
  severity : String
  message : String
  symbol : String
  deriving DecidableEq, Repr

/-- The detectors of a call, in their order. -/
def callReport (func : Ast) (args keywords : List Ast) : Option Report :=
  let name := (callName func).getD ""
  let dynamic := args.head?.any fun first => !isLiteral first
  let isExecute := name = "execute" ∨ ".execute".toList <:+ name.toList
  if name ∈ ["eval", "exec", "compile"] ∧ dynamic = true then
    some ⟨"PY-CODE-INJECTION", "critical",
      name ++ "() on a non-literal expression enables code injection", name⟩
  else if name ∈ ["os.system", "os.popen"] ∧ dynamic = true then
    some ⟨"PY-CMD-INJECTION", "high",
      name ++ "() on a dynamic string enables command injection", name⟩
  else if "subprocess.".toList <+: name.toList ∨ name ∈ subprocessNames then
    if keywords.any isShellTrue = true then
      some ⟨"PY-CMD-INJECTION", "high", name ++ "(..., shell=True) enables command injection", name⟩
    else none
  else if name ∈ ["pickle.loads", "pickle.load", "cPickle.loads", "marshal.loads"] then
    some ⟨"PY-UNSAFE-DESERIALIZE", "high",
      name ++ "() deserializes untrusted data into live objects", name⟩
  else if name = "yaml.load" then
    if keywords.any isLoader = true then none
    else
      some ⟨"PY-UNSAFE-DESERIALIZE", "high",
        "yaml.load() without a SafeLoader executes arbitrary tags", name⟩
  else if isExecute ∧ args.head?.any looksDynamicSql = true then
    some ⟨"PY-SQL-INJECTION", "high",
      name ++ "() runs a dynamically built query; use parameters", name⟩
  else if name ∈ ["hashlib.md5", "hashlib.sha1", "md5", "sha1"] then
    some ⟨"PY-WEAK-CRYPTO", "medium", name ++ "() is cryptographically weak", name⟩
  else none

variable (lower : String → String)

/-- A name that looks like a secret. -/
def isSecretName (id : String) : Bool :=
  secretNames.any fun s => (Delimiters.find s.toList (lower id).toList).isSome

/-- The reports of the target of an assignment. -/
def targetReport : Ast → Option Report
  | .name id =>
    if isSecretName lower id = true then
      some ⟨"PY-HARDCODED-SECRET", "medium",
        "'" ++ id ++ "' is assigned a hardcoded string literal", id⟩
    else none
  | _ => none

/-- The position and the reports of a node. -/
def reports : Ast → Option (Position × List Report)
  | .call position func args keywords => some (position, (callReport func args keywords).toList)
  | .assign position targets (.constant (.str value)) =>
    some (position, if value ≠ "" then targets.filterMap (targetReport lower) else [])
  | _ => none

/-- The source line of a node. -/
def snip (lines : List String) (position : Position) : String :=
  if position.line = 0 then "" else ((lines[position.line - 1]?).map Wire.strip).getD ""

/-- `add`. -/
def addFinding (path : String) (lines : List String) (position : Position) (r : Report) :
    StaticFinding where
  ruleId := r.ruleId
  severity := r.severity
  message := r.message
  file := path
  line := position.line
  column := position.column
  symbol := r.symbol
  snippet := snip lines position

/-- The findings of a node. -/
def nodeFindings (path : String) (lines : List String) (node : Ast) : List StaticFinding :=
  match reports lower node with
  | some (position, found) => found.map (addFinding path lines position)
  | none => []

/-- `_scan_source`, of the lines and the tree of a source. -/
def scanSource (path : String) (lines : List String) (tree : Ast) : List StaticFinding :=
  tree.walk.flatMap (nodeFindings lower path lines)

/-- The severity of a rule. -/
def ruleSeverity (ruleId : String) : String :=
  if ruleId = "PY-CODE-INJECTION" then "critical"
  else if ruleId ∈ ["PY-WEAK-CRYPTO", "PY-HARDCODED-SECRET"] then "medium"
  else "high"

theorem callReport_severity {func : Ast} {args keywords : List Ast} {r : Report}
    (h : callReport func args keywords = some r) : r.severity = ruleSeverity r.ruleId := by
  rw [callReport] at h
  split_ifs at h <;> obtain rfl := Option.some.inj h <;> simp [ruleSeverity]

theorem targetReport_severity {t : Ast} {r : Report} (h : targetReport lower t = some r) :
    r.severity = ruleSeverity r.ruleId := by
  cases t with
  | name id =>
    rw [targetReport] at h
    split_ifs at h
    obtain rfl := Option.some.inj h
    simp [ruleSeverity]
  | _ => exact absurd h (by simp [targetReport])

/-- A finding names the scanned file and has the severity of its rule. -/
theorem mem_scanSource {path : String} {lines : List String} {t : Ast} {f : StaticFinding}
    (h : f ∈ scanSource lower path lines t) :
    f.file = path ∧ f.severity = ruleSeverity f.ruleId := by
  obtain ⟨node, -, hf⟩ := List.mem_flatMap.mp h
  rw [nodeFindings] at hf
  split at hf
  next p found hreports =>
    obtain ⟨r, hr, rfl⟩ := List.mem_map.mp hf
    refine ⟨rfl, ?_⟩
    unfold reports at hreports
    split at hreports
    next position func args keywords =>
      obtain ⟨-, rfl⟩ := Prod.mk.inj (Option.some.inj hreports)
      exact callReport_severity (Option.mem_toList.mp hr)
    next position targets value =>
      obtain ⟨-, rfl⟩ := Prod.mk.inj (Option.some.inj hreports)
      split_ifs at hr with hvalue
      · obtain ⟨t, -, ht⟩ := List.mem_filterMap.mp hr
        exact targetReport_severity lower ht
      · exact absurd hr List.not_mem_nil
    next => exact absurd hreports (by simp)
  next => exact absurd hf List.not_mem_nil

/-! ## Documented positions -/

/-- Spans of tokens that lie within bounds and do not overlap, in any order. -/
def Apart (lo hi : Position) (spans : List (Position × Position)) : Prop :=
  (∀ s ∈ spans, lo ≤ s.1 ∧ s.2 ≤ hi) ∧ spans.Pairwise fun s s' => s.2 ≤ s'.1 ∨ s'.2 ≤ s.1

instance (lo hi : Position) (spans : List (Position × Position)) : Decidable (Apart lo hi spans) :=
  inferInstanceAs (Decidable (_ ∧ _))

mutual

/-- The calls and assignments of a tree start between two positions, those of different children
in spans that do not overlap, and the arguments of a call after its function : each has the position
of its own first token. CPython 3.11 gives the calls of `f"{g(a)}\n"` within another format string
positions of that one, so their trees need not be placed. -/
def Placed (lo hi : Position) : Ast → Prop
  | .name _ => True
  | .attribute value _ => Placed lo hi value
  | .constant _ => True
  | .joinedStr values => ∃ spans, Apart lo hi spans ∧ PlacedAt spans values
  | .formattedValue children => ∃ spans, Apart lo hi spans ∧ PlacedAt spans children
  | .binOp left _ right =>
    ∃ s s', Apart lo hi [s, s'] ∧ Placed s.1 s.2 left ∧ Placed s'.1 s'.2 right
  | .keyword _ value => Placed lo hi value
  | .call position func args keywords =>
    ∃ stop spans spans', lo ≤ position ∧ position < stop ∧ stop ≤ hi ∧
      Placed position stop func ∧ Apart stop hi (spans ++ spans') ∧ PlacedAt spans args ∧
      PlacedAt spans' keywords
  | .assign position targets value =>
    ∃ spans s, lo ≤ position ∧ position < hi ∧ Apart lo hi (spans ++ [s]) ∧
      PlacedAt spans targets ∧ Placed s.1 s.2 value
  | .other children => ∃ spans, Apart lo hi spans ∧ PlacedAt spans children

/-- Every tree of a list in its span. -/
def PlacedAt : List (Position × Position) → List Ast → Prop
  | [], [] => True
  | s :: spans, t :: ts => Placed s.1 s.2 t ∧ PlacedAt spans ts
  | _, _ => False

end

def isAssign : Ast → Bool
  | .assign _ _ _ => true
  | _ => false

/-- A tree with the positions that the language documents, whose assignments hold expressions. -/
structure Documented (t : Ast) : Prop where
  placed : ∃ lo hi, Placed lo hi t
  grammar : ∀ node ∈ t.nodes, isAssign node = true →
    ∀ child ∈ node.children, ∀ below ∈ child.nodes, isAssign below = false

theorem Apart.mono {lo lo' hi : Position} {spans : List (Position × Position)} (hlo : lo ≤ lo')
    (h : Apart lo' hi spans) : Apart lo hi spans :=
  ⟨fun s hs => ⟨hlo.trans (h.1 s hs).1, (h.1 s hs).2⟩, h.2⟩

theorem placedAt_append {spans spans' : List (Position × Position)} {ts ts' : List Ast}
    (h : PlacedAt spans ts) (h' : PlacedAt spans' ts') :
    PlacedAt (spans ++ spans') (ts ++ ts') := by
  induction spans generalizing ts with
  | nil =>
    cases ts with
    | nil => exact h'
    | cons t ts => exact h.elim
  | cons s spans ih =>
    cases ts with
    | nil => exact h.elim
    | cons t ts =>
      rw [PlacedAt] at h
      exact ⟨h.1, ih h.2⟩

/-- The children of a placed tree are placed in spans that do not overlap. -/
theorem Placed.children {lo hi : Position} {t : Ast} (h : Placed lo hi t) :
    ∃ spans, Apart lo hi spans ∧ PlacedAt spans t.children := by
  have hsingle : ∀ {value : Ast}, Placed lo hi value →
      ∃ spans, Apart lo hi spans ∧ PlacedAt spans [value] := fun {value} hvalue =>
    ⟨[(lo, hi)], ⟨by simp, List.pairwise_singleton _ _⟩, hvalue, trivial⟩
  have hnone : ∃ spans, Apart lo hi spans ∧ PlacedAt spans [] := ⟨[], ⟨by simp, .nil⟩, trivial⟩
  match t, h with
  | .name _, _ => exact hnone
  | .attribute _ _, h => exact hsingle h
  | .constant _, _ => exact hnone
  | .joinedStr _, h => exact h
  | .formattedValue _, h => exact h
  | .binOp _ _ _, h =>
    obtain ⟨s, s', hapart, hleft, hright⟩ := h
    exact ⟨[s, s'], hapart, hleft, hright, trivial⟩
  | .keyword _ _, h => exact hsingle h
  | .call position _ _ _, h =>
    obtain ⟨stop, spans, spans', hlo, hlt, hhi, hfunc, hapart, hargs, hkeywords⟩ := h
    refine ⟨(position, stop) :: (spans ++ spans'), ⟨?_, ?_⟩, hfunc, placedAt_append hargs hkeywords⟩
    · rintro s (_ | ⟨_, hs⟩)
      · exact ⟨hlo, hhi⟩
      · exact ⟨(hlo.trans hlt.le).trans (hapart.1 s hs).1, (hapart.1 s hs).2⟩
    · exact List.pairwise_cons.mpr ⟨fun s hs => .inl (hapart.1 s hs).1, hapart.2⟩
  | .assign _ _ _, h =>
    obtain ⟨spans, s, -, -, hapart, htargets, hvalue⟩ := h
    exact ⟨spans ++ [s], hapart, placedAt_append htargets ⟨hvalue, trivial⟩⟩
  | .other _, h => exact h

/-- The position of a call or an assignment. -/
def position? : Ast → Option Position
  | .call position _ _ _ => some position
  | .assign position _ _ => some position
  | _ => none

theorem Placed.position {lo hi p : Position} {t : Ast} (h : Placed lo hi t)
    (hp : position? t = some p) : lo ≤ p ∧ p < hi := by
  cases t with
  | call position func args keywords =>
    obtain ⟨stop, -, -, hlo, hlt, hhi, -⟩ := h
    obtain rfl := Option.some.inj hp
    exact ⟨hlo, hlt.trans_le hhi⟩
  | assign position targets value =>
    obtain ⟨-, -, hlo, hlt, -⟩ := h
    obtain rfl := Option.some.inj hp
    exact ⟨hlo, hlt⟩
  | _ => exact absurd hp (by simp [position?])

theorem placedAt_mem {spans : List (Position × Position)} {ts : List Ast}
    (h : PlacedAt spans ts) {t : Ast} (ht : t ∈ ts) : ∃ s ∈ spans, Placed s.1 s.2 t := by
  induction spans generalizing ts with
  | nil =>
    cases ts with
    | nil => exact absurd ht List.not_mem_nil
    | cons t ts => exact h.elim
  | cons s spans ih =>
    cases ts with
    | nil => exact h.elim
    | cons t' ts =>
      rw [PlacedAt] at h
      rcases List.mem_cons.mp ht with rfl | ht
      · exact ⟨s, List.mem_cons_self, h.1⟩
      · obtain ⟨s', hs', hplaced⟩ := ih h.2 ht
        exact ⟨s', List.mem_cons_of_mem _ hs', hplaced⟩

/-- Every call and assignment of a placed tree starts within its bounds. -/
theorem Placed.bounds {lo hi : Position} {t : Ast} (h : Placed lo hi t) :
    ∀ node ∈ t.nodes, ∀ p, position? node = some p → lo ≤ p ∧ p < hi := by
  induction t using Ast.byChildren generalizing lo hi with
  | step t ih =>
    intro node hnode p hp
    rw [nodes_eq] at hnode
    rcases List.mem_cons.mp hnode with rfl | hbelow
    · exact h.position hp
    · obtain ⟨child, hchild, hmem⟩ := List.mem_flatMap.mp hbelow
      obtain ⟨spans, hapart, hplaced⟩ := h.children
      obtain ⟨s, hs, hchildPlaced⟩ := placedAt_mem hplaced hchild
      obtain ⟨hlo, hhi⟩ := ih child hchild hchildPlaced node hmem p hp
      exact ⟨(hapart.1 s hs).1.trans hlo, hhi.trans_le (hapart.1 s hs).2⟩

/-- Nodes below different children start at different positions. -/
theorem placedAt_apart {lo hi : Position} {spans : List (Position × Position)} {ts : List Ast}
    (hapart : Apart lo hi spans) (h : PlacedAt spans ts) :
    ts.Pairwise fun t t' => ∀ x ∈ t.nodes, ∀ y ∈ t'.nodes, ∀ p ∈ position? x, p ∉ position? y := by
  induction spans generalizing ts with
  | nil =>
    cases ts with
    | nil => exact .nil
    | cons t ts => exact h.elim
  | cons s spans ih =>
    cases ts with
    | nil => exact h.elim
    | cons t ts =>
      rw [PlacedAt] at h
      obtain ⟨hfirst, hrest⟩ := List.pairwise_cons.mp hapart.2
      refine List.pairwise_cons.mpr ⟨fun t' ht' x hx y hy p hpx hpy => ?_,
        ih ⟨fun s hs => hapart.1 s (List.mem_cons_of_mem _ hs), hrest⟩ h.2⟩
      obtain ⟨s', hs', hplaced⟩ := placedAt_mem h.2 ht'
      obtain ⟨hlo, hhi⟩ := h.1.bounds x hx p hpx
      obtain ⟨hlo', hhi'⟩ := hplaced.bounds y hy p hpy
      rcases hfirst s' hs' with hle | hle
      · exact absurd (hhi.trans_le (hle.trans hlo')) (lt_irrefl p)
      · exact absurd (hhi'.trans_le (hle.trans hlo)) (lt_irrefl p)

/-! ## The keys of findings -/

/-- What a finding is known by : its rule, line, column and symbol. -/
def findingKey (f : StaticFinding) : String × ℕ × ℕ × String :=
  (f.ruleId, f.line, f.column, f.symbol)

/-- The keys of the findings of a node. -/
def nodeKeys (node : Ast) : List (String × ℕ × ℕ × String) :=
  match reports lower node with
  | some (p, found) => found.map fun r => (r.ruleId, p.line, p.column, r.symbol)
  | none => []

theorem map_nodeFindings (path : String) (lines : List String) (node : Ast) :
    (nodeFindings lower path lines node).map findingKey = nodeKeys lower node := by
  rw [nodeFindings, nodeKeys]
  split
  · rw [List.map_map]
    rfl
  · rfl

/-- The findings of a source have the keys of its nodes. -/
theorem scanSource_keys (path : String) (lines : List String) (t : Ast) :
    ((scanSource lower path lines t).map findingKey).Perm (t.nodes.flatMap (nodeKeys lower)) := by
  rw [scanSource, List.map_flatMap]
  simp only [map_nodeFindings]
  exact t.walk_perm.flatMap_right _

/-- The rule of assignments. -/
def secretRule : String := "PY-HARDCODED-SECRET"

/-- No call is reported under the rule of assignments. -/
theorem callReport_rule {func : Ast} {args keywords : List Ast} {r : Report}
    (h : callReport func args keywords = some r) : r.ruleId ≠ secretRule := by
  rw [callReport] at h
  split_ifs at h <;> obtain rfl := Option.some.inj h <;> simp [secretRule]

theorem targetReport_eq_some {t : Ast} {r : Report} (h : targetReport lower t = some r) :
    r.ruleId = secretRule ∧ ∃ id, t = .name id ∧ isSecretName lower id = true ∧ r.symbol = id := by
  cases t with
  | name id =>
    rw [targetReport] at h
    split_ifs at h with hsecret
    obtain rfl := Option.some.inj h
    exact ⟨rfl, id, rfl, hsecret, rfl⟩
  | _ => exact absurd h (by simp [targetReport])

/-- The name of a target, if it is a secret one. -/
def secretName? : Ast → Option String
  | .name id => if isSecretName lower id = true then some id else none
  | _ => none

/-- The secret names among the targets of an assignment. -/
def secretTargets (targets : List Ast) : List String := targets.filterMap (secretName? lower)

theorem targetReport_symbol (t : Ast) :
    (targetReport lower t).map Report.symbol = secretName? lower t := by
  cases t with
  | name id =>
    rw [targetReport, secretName?]
    split_ifs <;> rfl
  | _ => rfl

theorem targetReports_symbols (targets : List Ast) :
    (targets.filterMap (targetReport lower)).map Report.symbol = secretTargets lower targets := by
  rw [List.map_filterMap, secretTargets]
  exact List.filterMap_congr fun t _ => targetReport_symbol lower t

theorem nodeKeys_call (p : Position) (func : Ast) (args keywords : List Ast) :
    nodeKeys lower (.call p func args keywords) =
      (callReport func args keywords).toList.map
        fun r => (r.ruleId, p.line, p.column, r.symbol) := rfl

/-- The keys of an assignment of a text are those of its secret names. -/
theorem nodeKeys_assign (p : Position) (targets : List Ast) (value : String) :
    nodeKeys lower (.assign p targets (.constant (.str value))) =
      if value ≠ "" then (secretTargets lower targets).map
        fun id => (secretRule, p.line, p.column, id) else [] := by
  rw [nodeKeys, reports]
  split_ifs with hvalue
  · rw [← targetReports_symbols, List.map_map]
    refine List.map_congr_left fun r hr => ?_
    obtain ⟨t, -, ht⟩ := List.mem_filterMap.mp hr
    rw [(targetReport_eq_some lower ht).1]
    rfl
  · rfl

/-- Only calls and assignments of a text have keys. -/
theorem nodeKeys_kind {node : Ast} {key : String × ℕ × ℕ × String}
    (h : key ∈ nodeKeys lower node) :
    (∃ p func args keywords, node = .call p func args keywords) ∨
      ∃ p targets value, node = .assign p targets (.constant (.str value)) ∧ value ≠ "" := by
  unfold nodeKeys reports at h
  split at h
  next p found hreports =>
    split at hreports
    next position func args keywords => exact .inl ⟨position, func, args, keywords, rfl⟩
    next position targets value =>
      refine .inr ⟨position, targets, value, rfl, fun hvalue => ?_⟩
      obtain ⟨rfl, rfl⟩ := Prod.mk.inj (Option.some.inj hreports)
      exact absurd h (by simp [hvalue])
    next => exact absurd hreports (by simp)
  next => exact absurd h List.not_mem_nil

theorem mem_nodeKeys {node : Ast} {key : String × ℕ × ℕ × String}
    (h : key ∈ nodeKeys lower node) :
    ∃ p ∈ position? node, key.2.1 = p.line ∧ key.2.2.1 = p.column ∧
      (key.1 = secretRule ↔ isAssign node = true) := by
  rw [nodeKeys] at h
  split at h
  next p found hreports =>
    obtain ⟨r, hr, rfl⟩ := List.mem_map.mp h
    unfold reports at hreports
    split at hreports
    next position func args keywords =>
      obtain ⟨rfl, rfl⟩ := Prod.mk.inj (Option.some.inj hreports)
      refine ⟨_, rfl, rfl, rfl, fun heq => ?_, fun hassign => absurd hassign (by simp [isAssign])⟩
      exact absurd heq (callReport_rule (Option.mem_toList.mp hr))
    next position targets value =>
      obtain ⟨rfl, rfl⟩ := Prod.mk.inj (Option.some.inj hreports)
      refine ⟨_, rfl, rfl, rfl, fun _ => rfl, fun _ => ?_⟩
      split_ifs at hr with hvalue
      · obtain ⟨t, -, ht⟩ := List.mem_filterMap.mp hr
        exact (targetReport_eq_some lower ht).1
      · exact absurd hr List.not_mem_nil
    next => exact absurd hreports (by simp)
  next => exact absurd h List.not_mem_nil

/-! ## Clashes -/

/-- A call is reported like a call at the same position in its own receiver. -/
def SharesReceiver (node : Ast) : Prop :=
  ∃ position func args keywords r, node = .call position func args keywords ∧
    callReport func args keywords = some r ∧
    ∃ func' args' keywords' r', .call position func' args' keywords' ∈ func.nodes ∧
      callReport func' args' keywords' = some r' ∧ r'.ruleId = r.ruleId ∧ r'.symbol = r.symbol

/-- Some call of a tree is reported like a call in its own receiver. -/
def ReceiverClash (t : Ast) : Prop := ∃ node ∈ t.nodes, SharesReceiver node

/-- An assignment of a text has a secret name twice among its targets. -/
def TargetClash (t : Ast) : Prop :=
  ∃ position targets value, .assign position targets (.constant (.str value)) ∈ t.nodes ∧
    value ≠ "" ∧ ¬(secretTargets lower targets).Nodup

/-- Two calls start at one position and are reported under one rule and name, or two assignments of
a text start at one position and have a secret name in common. -/
def ReportedAlike : Ast → Ast → Prop
  | .call p func args keywords, .call p' func' args' keywords' =>
    p = p' ∧ ∃ r ∈ callReport func args keywords, ∃ r' ∈ callReport func' args' keywords',
      r'.ruleId = r.ruleId ∧ r'.symbol = r.symbol
  | .assign p targets (.constant (.str value)), .assign p' targets' (.constant (.str value')) =>
    p = p' ∧ value ≠ "" ∧ value' ≠ "" ∧
      ∃ id ∈ secretTargets lower targets, id ∈ secretTargets lower targets'
  | _, _ => False

/-- The children of a node, less the receiver of a call. -/
def besideReceiver : Ast → List Ast
  | .call _ _ args keywords => args ++ keywords
  | t => t.children

/-- A node is reported like one below it that is not in its receiver, or like nodes below two of its
children are. -/
def Misplaced (node : Ast) : Prop :=
  (∃ child ∈ besideReceiver node, ∃ below ∈ child.nodes, ReportedAlike lower node below) ∨
    ¬node.children.Pairwise fun c c' => ∀ x ∈ c.nodes, ∀ y ∈ c'.nodes, ¬ReportedAlike lower x y

/-- Two nodes of a tree, neither in the receiver of the other, are reported alike. -/
def MisplacedClash (t : Ast) : Prop := ∃ node ∈ t.nodes, Misplaced lower node

theorem Position.eq_of_line_column {p q : Position} (hline : p.line = q.line)
    (hcolumn : p.column = q.column) : p = q :=
  ofLex_inj.mp (Prod.ext hline hcolumn)

/-- Nodes are reported alike exactly when they have a key in common. -/
theorem reportedAlike_iff {x y : Ast} :
    ReportedAlike lower x y ↔ ∃ key ∈ nodeKeys lower x, key ∈ nodeKeys lower y := by
  constructor
  · intro h
    unfold ReportedAlike at h
    split at h
    next p func args keywords p' func' args' keywords' =>
      obtain ⟨rfl, r, hr, r', hr', hrule, hsymbol⟩ := h
      refine ⟨(r.ruleId, p.line, p.column, r.symbol), ?_, ?_⟩
      · exact List.mem_map_of_mem (Option.mem_toList.mpr hr)
      · rw [← hrule, ← hsymbol]
        exact List.mem_map_of_mem (Option.mem_toList.mpr hr')
    next p targets value p' targets' value' =>
      obtain ⟨rfl, hvalue, hvalue', id, hid, hid'⟩ := h
      refine ⟨(secretRule, p.line, p.column, id), ?_, ?_⟩
      · rw [nodeKeys_assign, if_pos hvalue]
        exact List.mem_map_of_mem hid
      · rw [nodeKeys_assign, if_pos hvalue']
        exact List.mem_map_of_mem hid'
    next => exact h.elim
  · rintro ⟨key, hx, hy⟩
    obtain ⟨p, func, args, keywords, rfl⟩ | ⟨p, targets, value, rfl, hvalue⟩ :=
      nodeKeys_kind lower hx
    · obtain ⟨p', func', args', keywords', rfl⟩ | ⟨p', targets', value', rfl, -⟩ :=
        nodeKeys_kind lower hy
      · obtain ⟨r, hr, rfl⟩ := List.mem_map.mp hx
        obtain ⟨r', hr', heq⟩ := List.mem_map.mp hy
        simp only [Prod.mk.injEq] at heq
        exact ⟨(Position.eq_of_line_column heq.2.1 heq.2.2.1).symm, r, Option.mem_toList.mp hr, r',
          Option.mem_toList.mp hr', heq.1, heq.2.2.2⟩
      · obtain ⟨-, -, -, -, hrule⟩ := mem_nodeKeys lower hx
        obtain ⟨-, -, -, -, hrule'⟩ := mem_nodeKeys lower hy
        exact absurd (hrule.mp (hrule'.mpr rfl)) (by simp [isAssign])
    · obtain ⟨p', func', args', keywords', rfl⟩ | ⟨p', targets', value', rfl, hvalue'⟩ :=
        nodeKeys_kind lower hy
      · obtain ⟨-, -, -, -, hrule⟩ := mem_nodeKeys lower hx
        obtain ⟨-, -, -, -, hrule'⟩ := mem_nodeKeys lower hy
        exact absurd (hrule'.mp (hrule.mpr rfl)) (by simp [isAssign])
      · rw [nodeKeys_assign, if_pos hvalue] at hx
        rw [nodeKeys_assign, if_pos hvalue'] at hy
        obtain ⟨id, hid, rfl⟩ := List.mem_map.mp hx
        obtain ⟨id', hid', heq⟩ := List.mem_map.mp hy
        simp only [Prod.mk.injEq, true_and] at heq
        obtain ⟨hline, hcolumn, rfl⟩ := heq
        exact ⟨(Position.eq_of_line_column hline hcolumn).symm, hvalue, hvalue', id', hid, hid'⟩

theorem not_reportedAlike {x y : Ast} :
    ¬ReportedAlike lower x y ↔ (nodeKeys lower x).Disjoint (nodeKeys lower y) := by
  simp [reportedAlike_iff, List.Disjoint]

/-! ## Distinct findings -/

/-- Nodes that start at different positions have no key in common. -/
theorem disjoint_of_position {x y : Ast} (h : ∀ p ∈ position? x, p ∉ position? y) :
    (nodeKeys lower x).Disjoint (nodeKeys lower y) := by
  intro key hx hy
  obtain ⟨p, hp, hline, hcolumn, -⟩ := mem_nodeKeys lower hx
  obtain ⟨q, hq, hline', hcolumn', -⟩ := mem_nodeKeys lower hy
  have hpq : p = q :=
    Position.eq_of_line_column (hline.symm.trans hline') (hcolumn.symm.trans hcolumn')
  exact h p hp (hpq ▸ hq)

/-- An assignment and a node that is none have no key in common. -/
theorem disjoint_of_assign {x y : Ast} (hx : isAssign x = true) (hy : isAssign y = false) :
    (nodeKeys lower x).Disjoint (nodeKeys lower y) := by
  intro key hkey hkey'
  obtain ⟨-, -, -, -, hrule⟩ := mem_nodeKeys lower hkey
  obtain ⟨-, -, -, -, hrule'⟩ := mem_nodeKeys lower hkey'
  rw [hrule'.mp (hrule.mpr hx)] at hy
  exact absurd hy (by simp)

/-- A call that shares no report with its receiver has no key in common with it. -/
theorem disjoint_of_receiver {position : Position} {func : Ast} {args keywords : List Ast}
    (hno : ¬SharesReceiver (.call position func args keywords)) {below : Ast}
    (hbelow : below ∈ func.nodes) :
    (nodeKeys lower (.call position func args keywords)).Disjoint (nodeKeys lower below) := by
  intro key hkey hkey'
  obtain ⟨p, hp, hline, hcolumn, hrule⟩ := mem_nodeKeys lower hkey
  obtain ⟨q, hq, hline', hcolumn', hrule'⟩ := mem_nodeKeys lower hkey'
  obtain rfl := Option.mem_some_iff.mp hp
  have hpq : position = q :=
    Position.eq_of_line_column (hline.symm.trans hline') (hcolumn.symm.trans hcolumn')
  have hcall : isAssign below = false := by
    rw [Bool.eq_false_iff]
    intro hassign
    exact absurd (hrule.mp (hrule'.mpr hassign)) (by simp [isAssign])
  cases below with
  | call position' func' args' keywords' =>
    obtain rfl : q = position' := (Option.mem_some_iff.mp hq).symm
    subst hpq
    rw [nodeKeys_call] at hkey hkey'
    obtain ⟨r, hr, rfl⟩ := List.mem_map.mp hkey
    obtain ⟨r', hr', heq⟩ := List.mem_map.mp hkey'
    simp only [Prod.mk.injEq, true_and] at heq
    exact hno ⟨position, func, args, keywords, r, rfl, Option.mem_toList.mp hr, func', args',
      keywords', r', hbelow, Option.mem_toList.mp hr', heq.1, heq.2⟩
  | assign => exact absurd hcall (by simp [isAssign])
  | _ => exact absurd hkey' List.not_mem_nil

theorem not_sharesReceiver {t : Ast} (h : ∀ p f as ks, t ≠ .call p f as ks) :
    ¬SharesReceiver t := by
  rintro ⟨p, f, as, ks, -, hcall, -⟩
  exact h p f as ks hcall

/-- A node shares a key with a node below it exactly when it is reported like a call in its
receiver, or like a node beside that. -/
theorem disjoint_below_iff (t : Ast) :
    (∀ below ∈ t.children.flatMap Ast.nodes,
        (nodeKeys lower t).Disjoint (nodeKeys lower below)) ↔
      ¬SharesReceiver t ∧ ∀ child ∈ besideReceiver t, ∀ below ∈ child.nodes,
        ¬ReportedAlike lower t below := by
  simp only [not_reportedAlike, List.mem_flatMap, forall_exists_index, and_imp]
  cases t with
  | call position func args keywords =>
    constructor
    · refine fun h => ⟨?_, fun child hchild below hbelow =>
        h below child (List.mem_cons_of_mem _ hchild) hbelow⟩
      rintro ⟨_, _, _, _, r, heq, hr, func', args', keywords', r', hmem, hr', hrule, hsymbol⟩
      obtain ⟨rfl, rfl, rfl, rfl⟩ := Ast.call.inj heq
      refine h _ func List.mem_cons_self hmem
        (a := (r.ruleId, position.line, position.column, r.symbol)) ?_ ?_
      · rw [nodeKeys_call, hr]
        exact List.mem_singleton.mpr rfl
      · rw [nodeKeys_call, hr', ← hrule, ← hsymbol]
        exact List.mem_singleton.mpr rfl
    · rintro ⟨hno, hbeside⟩ below child hchild hbelow
      rcases List.mem_cons.mp hchild with rfl | hchild
      · exact disjoint_of_receiver lower hno hbelow
      · exact hbeside child hchild below hbelow
  | _ =>
    rw [and_iff_right (not_sharesReceiver (by simp))]
    exact ⟨fun h child hchild below => h below child hchild,
      fun h below child hchild => h child hchild below⟩

theorem receiverClash_eq (t : Ast) :
    ReceiverClash t ↔ SharesReceiver t ∨ ∃ child ∈ t.children, ReceiverClash child := by
  simp only [ReceiverClash]
  rw [nodes_eq]
  simp only [List.mem_cons, List.mem_flatMap]
  constructor
  · rintro ⟨node, rfl | ⟨child, hchild, hmem⟩, h⟩
    · exact .inl h
    · exact .inr ⟨child, hchild, node, hmem, h⟩
  · rintro (h | ⟨child, hchild, node, hmem, h⟩)
    · exact ⟨t, .inl rfl, h⟩
    · exact ⟨node, .inr ⟨child, hchild, hmem⟩, h⟩

theorem misplacedClash_eq (t : Ast) :
    MisplacedClash lower t ↔
      Misplaced lower t ∨ ∃ child ∈ t.children, MisplacedClash lower child := by
  simp only [MisplacedClash]
  rw [nodes_eq]
  simp only [List.mem_cons, List.mem_flatMap]
  constructor
  · rintro ⟨node, rfl | ⟨child, hchild, hmem⟩, h⟩
    · exact .inl h
    · exact .inr ⟨child, hchild, node, hmem, h⟩
  · rintro (h | ⟨child, hchild, node, hmem, h⟩)
    · exact ⟨t, .inl rfl, h⟩
    · exact ⟨node, .inr ⟨child, hchild, hmem⟩, h⟩

/-- The nodes of a tree have keys in common exactly when a call is reported like one in its
receiver, or two other nodes are reported alike. -/
theorem nodes_disjoint_iff (t : Ast) :
    (t.nodes.Pairwise fun x y => (nodeKeys lower x).Disjoint (nodeKeys lower y)) ↔
      ¬ReceiverClash t ∧ ¬MisplacedClash lower t := by
  induction t using Ast.byChildren with
  | step t ih =>
    have hmisplaced : ¬Misplaced lower t ↔
        (∀ child ∈ besideReceiver t, ∀ below ∈ child.nodes, ¬ReportedAlike lower t below) ∧
          t.children.Pairwise fun c c' => ∀ x ∈ c.nodes, ∀ y ∈ c'.nodes,
            (nodeKeys lower x).Disjoint (nodeKeys lower y) := by
      simp only [← not_reportedAlike, Misplaced, not_or, not_not, not_exists, not_and]
    have hchildren : (∀ child ∈ t.children,
        child.nodes.Pairwise fun x y => (nodeKeys lower x).Disjoint (nodeKeys lower y)) ↔
          (¬∃ child ∈ t.children, ReceiverClash child) ∧
            ¬∃ child ∈ t.children, MisplacedClash lower child := by
      simp only [not_exists, not_and, ← forall_and]
      exact forall₂_congr ih
    rw [nodes_eq, List.pairwise_cons, List.pairwise_flatMap, disjoint_below_iff, hchildren,
      receiverClash_eq, misplacedClash_eq, not_or, not_or, hmisplaced]
    tauto

/-- The keys of one node are distinct unless it assigns a text to one secret name twice. -/
theorem nodeKeys_nodup_iff (node : Ast) :
    (nodeKeys lower node).Nodup ↔ ¬∃ position targets value,
      node = .assign position targets (.constant (.str value)) ∧ value ≠ "" ∧
        ¬(secretTargets lower targets).Nodup := by
  constructor
  · rintro hnodup ⟨position, targets, value, rfl, hvalue, hclash⟩
    rw [nodeKeys_assign, if_pos hvalue, List.nodup_map_iff fun a b hab => by simpa using hab]
      at hnodup
    exact hclash hnodup
  · intro hnone
    rcases hkeys : nodeKeys lower node with _ | ⟨key, keys⟩
    · exact List.nodup_nil
    · have hmem : key ∈ nodeKeys lower node := by
        rw [hkeys]
        exact List.mem_cons_self
      rw [← hkeys]
      obtain ⟨p, func, args, keywords, rfl⟩ | ⟨p, targets, value, rfl, hvalue⟩ :=
        nodeKeys_kind lower hmem
      · rw [nodeKeys_call]
        cases callReport func args keywords <;> simp
      · rw [nodeKeys_assign, if_pos hvalue, List.nodup_map_iff fun a b hab => by simpa using hab]
        by_contra hclash
        exact hnone ⟨p, targets, value, rfl, hvalue, hclash⟩

/-- The findings of a module are pairwise distinct exactly when no call is reported like a call in
its own receiver, no assignment has a secret name twice and no other nodes are reported alike. -/
theorem findings_nodup_iff (path : String) (lines : List String) (t : Ast) :
    ((scanSource lower path lines t).map findingKey).Nodup ↔
      (¬ReceiverClash t ∧ ¬MisplacedClash lower t) ∧ ¬TargetClash lower t := by
  rw [(scanSource_keys lower path lines t).nodup_iff, List.nodup_flatMap, and_comm]
  refine and_congr (nodes_disjoint_iff lower t) ?_
  simp only [nodeKeys_nodup_iff, TargetClash]
  constructor
  · rintro h ⟨position, targets, value, hmem, hclash⟩
    exact h _ hmem ⟨position, targets, value, rfl, hclash⟩
  · rintro h node hmem ⟨position, targets, value, rfl, hclash⟩
    exact h ⟨position, targets, value, hmem, hclash⟩

/-! ## Documented trees -/

/-- A node of a placed tree is not reported like one beside its receiver. -/
theorem Placed.disjoint_beside {t : Ast} {lo hi : Position} (hplaced : Placed lo hi t)
    (hgrammar : isAssign t = true →
      ∀ child ∈ t.children, ∀ below ∈ child.nodes, isAssign below = false) :
    ∀ child ∈ besideReceiver t, ∀ below ∈ child.nodes,
      (nodeKeys lower t).Disjoint (nodeKeys lower below) := by
  intro child hchild below hbelow
  cases t with
  | call position func args keywords =>
    obtain ⟨stop, spans, spans', hlo, hlt, hhi, hfunc, hapart, hargs, hkeywords⟩ := hplaced
    obtain ⟨s, hs, hplaced⟩ := placedAt_mem (placedAt_append hargs hkeywords) hchild
    refine disjoint_of_position lower fun p hp hq => ?_
    obtain rfl := Option.mem_some_iff.mp hp
    have hstart := ((hapart.1 s hs).1.trans (hplaced.bounds below hbelow _ hq).1)
    exact absurd (hlt.trans_le hstart) (lt_irrefl _)
  | assign position targets value =>
    exact disjoint_of_assign lower rfl (hgrammar rfl child hchild below hbelow)
  | _ => exact List.disjoint_nil_left _

/-- In a tree with the documented positions, nodes are reported alike only in a receiver. -/
theorem Documented.not_misplacedClash {t : Ast} (ht : Documented t) :
    ¬MisplacedClash lower t := by
  obtain ⟨⟨lo, hi, hplaced⟩, hgrammar⟩ := ht
  induction t using Ast.byChildren generalizing lo hi with
  | step t ih =>
    obtain ⟨spans, hapart, hchildren⟩ := hplaced.children
    rw [misplacedClash_eq]
    have hself : t ∈ t.nodes := by
      rw [nodes_eq]
      exact List.mem_cons_self
    rintro ((⟨child, hchild, below, hbelow, halike⟩ | hcross) | ⟨child, hchild, hclash⟩)
    · have hdisjoint := hplaced.disjoint_beside lower (hgrammar t hself) child hchild below hbelow
      exact (not_reportedAlike lower).mpr hdisjoint halike
    · refine hcross ((placedAt_apart hapart hchildren).imp fun h x hx y hy => ?_)
      exact (not_reportedAlike lower).mpr (disjoint_of_position lower (h x hx y hy))
    · obtain ⟨s, -, hchildPlaced⟩ := placedAt_mem hchildren hchild
      refine ih child hchild (fun node hnode => hgrammar node ?_) s.1 s.2 hchildPlaced hclash
      rw [nodes_eq]
      exact List.mem_cons_of_mem _ (List.mem_flatMap.mpr ⟨child, hchild, hnode⟩)

end Etzio.Sast
