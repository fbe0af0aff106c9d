import Etzio.EventCodec
import Etzio.PythonSast

/-!
# The expected outputs of a scan

`_expected_outputs` : the candidates and the parse failures that the analyzer finds in the files
of a snapshot, in order. A candidate is known by its path and the key of its finding, unless
SHA-256 collides on two candidate bodies (`candidateId_eq_iff`).

`analyzer_admissible` : over any snapshot whose files have distinct paths, the findings of each file
and the identities of all candidates are pairwise distinct exactly when no tree has a receiver, a
misplaced or a target clash. A tree with the documented positions has no misplaced one.
`analyzer_duplicate` : `token = token = "x"`, `execute(a + b).execute(c + d)`, and the calls of a
format string of several lines within another.
-/

open CheckedRun JsonText

namespace Etzio.Wire

open Sast (Ast Documented scanSource findingKey ReceiverClash MisplacedClash TargetClash)

variable (E : WireEnv)

/-! ## Candidates -/

/-- The mission, the authority, the lease and the snapshot of a scan. -/
structure ScanBinding where
  missionId : String
  authorityId : String
  analysisLeaseId : String
  targetSnapshotId : String

/-- The values of a candidate before it has its identities. -/
def ScanBinding.candidate (b : ScanBinding) (sourceArtifactDigest : String)
    (f : Sast.StaticFinding) : StaticCandidateV1 where
  candidateId := ""
  claimId := ""
  missionId := b.missionId
  authorityId := b.authorityId
  analysisLeaseId := b.analysisLeaseId
  targetSnapshotId := b.targetSnapshotId
  sourceArtifactDigest := sourceArtifactDigest
  relativePath := f.file
  analyzerVersion := pythonSastVersion
  ruleId := f.ruleId
  severity := f.severity
  line := f.line
  column := f.column
  symbol := f.symbol
  producerIdentity := "VELITES"

/-- The members of `_body`. -/
def StaticCandidateV1.members (c : StaticCandidateV1) : Members := (members? c.body).getD []

/-- `StaticCandidateV1.__post_init__`. -/
def StaticCandidateV1.postInit (c : StaticCandidateV1) : Except WireError Unit := do
  refuseIf (isContentId c.candidateId = false)
    (.mission "candidate_id must be a full sha256 identifier")
  let _ ← validateCandidateBody c.candidateId c.members
  let expectedClaim ← staticClaimId E c
  refuseIf (c.claimId ≠ expectedClaim) (.mission "claim_id does not match the static claim")
  let canonical ← E.create "candidate" c.body
  refuseIf (canonical.objectId ≠ c.candidateId)
    (.mission "candidate_id does not match the canonical candidate body")

/-- `StaticCandidateV1.from_finding`. -/
def StaticCandidateV1.fromFinding (b : ScanBinding) (sourceArtifactDigest : String)
    (f : Sast.StaticFinding) : Except WireError StaticCandidateV1 := do
  let values := b.candidate sourceArtifactDigest f
  let claimId ← staticClaimId E values
  let values : StaticCandidateV1 := { values with claimId }
  let _ ← validateCandidateBody "" values.members
  let envelope ← E.create "candidate" values.body
  let candidate : StaticCandidateV1 := { values with candidateId := envelope.objectId }
  candidate.postInit E
  return candidate

/-! ## Outputs -/

/-- `SourceParseFailureV1`. -/
structure SourceParseFailureV1 where
  relativePath : String
  reasonCode : String
  line : ℕ
  column : ℕ

/-- What the analyzer makes of the bytes of a file : the lines and the tree of a source, or a
parse failure. -/
inductive SourceParse
  | parsed (lines : List String) (tree : Ast)
  | failed (failure : SourceParseFailureV1)

/-- An output of VELITES. -/
inductive ScanOutput
  | candidateRecorded (candidate : StaticCandidateV1)
  | parseFailed (analysisLeaseId : String) (failure : SourceParseFailureV1)
      (sourceArtifactDigest : String)

/-- The order of candidates. -/
def candidateKey (c : StaticCandidateV1) :
    String ×ₗ ℕ ×ₗ ℕ ×ₗ String ×ₗ String ×ₗ String :=
  toLex (c.relativePath, toLex (c.line, toLex (c.column, toLex (c.ruleId,
    toLex (c.symbol, c.candidateId)))))

/-- The outputs of one file. -/
def fileOutputs (lower : String → String) (b : ScanBinding) (file : SnapshotFileV1) :
    SourceParse → Except WireError (List ScanOutput)
  | .failed failure => .ok [.parseFailed b.analysisLeaseId failure file.artifactDigest]
  | .parsed lines tree => do
    let candidates ← (scanSource lower file.relativePath lines tree).mapM
      (StaticCandidateV1.fromFinding E b file.artifactDigest)
    return (candidates.mergeSort fun c d => candidateKey c ≤ candidateKey d).map
      .candidateRecorded

def isCandidateOutput : ScanOutput → Bool
  | .candidateRecorded _ => true
  | .parseFailed _ _ _ => false

/-- `_expected_outputs`, with the counts of the two kinds of outputs. -/
def FixtureScan.expectedOutputs (lower : String → String) (b : ScanBinding)
    (files : List (SnapshotFileV1 × SourceParse)) : Except WireError (List ScanOutput × ℕ × ℕ) := do
  let outputs ← files.mapM fun file => fileOutputs E lower b file.1 file.2
  return (outputs.flatten, outputs.flatten.countP isCandidateOutput,
    outputs.flatten.countP fun output => !isCandidateOutput output)

/-- The candidates among outputs. -/
def candidatesOf (outputs : List ScanOutput) : List StaticCandidateV1 :=
  outputs.filterMap fun
    | .candidateRecorded candidate => some candidate
    | .parseFailed _ _ _ => none

/-! ## The identity of a candidate -/

section Identity

variable {E}

/-- A candidate is its values with the identities of its claim and of its body. -/
theorem fromFinding_eq_ok {b : ScanBinding} {digest : String} {f : Sast.StaticFinding}
    {c : StaticCandidateV1} (h : StaticCandidateV1.fromFinding E b digest f = .ok c) :
    ∃ claimId envelope, c = { b.candidate digest f with
        claimId := claimId, candidateId := envelope.objectId } ∧
      E.create "candidate" c.body = .ok envelope := by
  obtain ⟨claimId, -, h₁⟩ := bind_eq_ok.mp h
  obtain ⟨-, -, h₂⟩ := bind_eq_ok.mp h₁
  obtain ⟨envelope, henvelope, h₃⟩ := bind_eq_ok.mp h₂
  obtain ⟨-, h₄⟩ := unit_bind_eq_ok.mp h₃
  obtain rfl := Except.ok.inj h₄
  exact ⟨claimId, envelope, rfl, henvelope⟩

/-- The normal form of a body. -/
theorem normalForm_candidate (c : StaticCandidateV1) : normalForm c.body = c.body := by
  simp [StaticCandidateV1.body, normalForm, normalFormMembers, setItem, sortMembers]

/-- The identity of a candidate is the hash of the preimage of its body. -/
theorem fromFinding_id {b : ScanBinding} {digest : String} {f : Sast.StaticFinding}
    {c : StaticCandidateV1} (h : StaticCandidateV1.fromFinding E b digest f = .ok c) :
    ∃ p, contentPreimage E.nfc "candidate" c.body = .ok p ∧
      c.candidateId = contentIdText (E.sha256 p) := by
  obtain ⟨claimId, envelope, hc, hcreate⟩ := fromFinding_eq_ok h
  obtain ⟨hcreated, hkind, hbody, -⟩ := create_created (WireEnv.create_eq_ok.mp hcreate)
  have hsame : Json.obj envelope.body = c.body := by
    rw [normalized_normalForm hbody, normalForm_candidate]
  have hid := hcreated.identity
  rw [hkind, hsame] at hid
  obtain ⟨p, hp, hreturn⟩ := bind_eq_ok.mp hid
  refine ⟨p, hp, ?_⟩
  have hobject : c.candidateId = envelope.objectId := by rw [hc]
  rw [hobject]
  exact (Except.ok.inj hreturn).symm

/-- SHA-256 does not collide on the bodies of candidates. -/
def CollisionFreeBodies (E : WireEnv) (cs : List StaticCandidateV1) : Prop :=
  ∀ c ∈ cs, ∀ c' ∈ cs, ∀ p p', contentPreimage E.nfc "candidate" c.body = .ok p →
    contentPreimage E.nfc "candidate" c'.body = .ok p' → E.sha256 p = E.sha256 p' → p = p'

/-- What a candidate is known by : its path, rule, line, column and symbol. -/
def knownBy (c : StaticCandidateV1) : String × String × ℕ × ℕ × String :=
  (c.relativePath, c.ruleId, c.line, c.column, c.symbol)

theorem knownBy_fromFinding {b : ScanBinding} {digest : String} {f : Sast.StaticFinding}
    {c : StaticCandidateV1} (h : StaticCandidateV1.fromFinding E b digest f = .ok c) :
    knownBy c = (f.file, findingKey f) := by
  obtain ⟨claimId, envelope, rfl, -⟩ := fromFinding_eq_ok h
  rfl

/-- Candidates with one identity are known by the same. -/
theorem knownBy_of_id {b : ScanBinding} {digest digest' : String} {f f' : Sast.StaticFinding}
    {c c' : StaticCandidateV1} {cs : List StaticCandidateV1} (hfree : CollisionFreeBodies E cs)
    (hc : c ∈ cs) (hc' : c' ∈ cs) (h : StaticCandidateV1.fromFinding E b digest f = .ok c)
    (h' : StaticCandidateV1.fromFinding E b digest' f' = .ok c')
    (hid : c.candidateId = c'.candidateId) : knownBy c = knownBy c' := by
  obtain ⟨p, hp, hpid⟩ := fromFinding_id h
  obtain ⟨p', hp', hpid'⟩ := fromFinding_id h'
  obtain rfl := hfree c hc c' hc' p p' hp hp'
    (contentIdText_inj (hpid.symm.trans (hid.trans hpid')))
  obtain ⟨-, hnormal⟩ := contentPreimage_inj hp hp'
  obtain ⟨-, bytes, hbytes, -⟩ := contentPreimage_eq_ok.mp hp
  obtain ⟨w, hw, -⟩ := canonicalDumps_eq_ok.mp hbytes
  have hbody : c.body = c'.body := by
    rw [← normalForm_candidate c, ← normalForm_candidate c', ← normalized_normalForm hw,
      normalized_normalForm (hnormal.symm.trans hw)]
  simp only [StaticCandidateV1.body, Json.obj.injEq, List.cons.injEq, Prod.mk.injEq, Json.str.injEq,
    Json.int.injEq, Int.natCast_inj, true_and, and_true] at hbody
  obtain ⟨-, -, -, -, hcolumn, hline, -, -, hpath, hrule, -, -, hsymbol, -⟩ := hbody
  rw [knownBy, knownBy, hcolumn, hline, hpath, hrule, hsymbol]

/-- Findings of one file with one key and one severity make the same candidate. -/
theorem fromFinding_same {b : ScanBinding} {digest : String} {f f' : Sast.StaticFinding}
    (hfile : f.file = f'.file) (hkey : findingKey f = findingKey f')
    (hseverity : f.severity = f'.severity) :
    StaticCandidateV1.fromFinding E b digest f = StaticCandidateV1.fromFinding E b digest f' := by
  have hvalues : b.candidate digest f = b.candidate digest f' := by
    simp only [findingKey, Prod.mk.injEq] at hkey
    rw [ScanBinding.candidate, ScanBinding.candidate, hfile, hseverity, hkey.1, hkey.2.1,
      hkey.2.2.1, hkey.2.2.2]
  rw [StaticCandidateV1.fromFinding, StaticCandidateV1.fromFinding, hvalues]

end Identity

/-! ## The candidates of a snapshot -/

/-- The findings in a file. -/
def fileFindings (lower : String → String) (file : SnapshotFileV1 × SourceParse) :
    List Sast.StaticFinding :=
  match file.2 with
  | .parsed lines tree => scanSource lower file.1.relativePath lines tree
  | .failed _ => []

/-- The findings in the files of a snapshot, with their file. -/
def snapshotFindings (lower : String → String) (files : List (SnapshotFileV1 × SourceParse)) :
    List (SnapshotFileV1 × Sast.StaticFinding) :=
  files.flatMap fun file => (fileFindings lower file).map (file.1, ·)

section Outputs

variable {E} {lower : String → String} {b : ScanBinding}

theorem candidatesOf_append (xs ys : List ScanOutput) :
    candidatesOf (xs ++ ys) = candidatesOf xs ++ candidatesOf ys := List.filterMap_append

theorem candidatesOf_recorded (cs : List StaticCandidateV1) :
    candidatesOf (cs.map .candidateRecorded) = cs := by
  rw [candidatesOf, List.filterMap_map]
  exact List.filterMap_some

/-- The outputs of a file have the candidates of its findings. -/
theorem fileOutputs_candidates {file : SnapshotFileV1 × SourceParse} {outputs : List ScanOutput}
    (h : fileOutputs E lower b file.1 file.2 = .ok outputs) :
    ∃ cs, List.Forall₂
        (fun f c => StaticCandidateV1.fromFinding E b file.1.artifactDigest f = .ok c)
        (fileFindings lower file) cs ∧ cs.Perm (candidatesOf outputs) := by
  obtain ⟨file, parse⟩ := file
  cases parse with
  | failed failure =>
    obtain rfl := Except.ok.inj h
    exact ⟨[], .nil, .nil⟩
  | parsed lines tree =>
    obtain ⟨cs, hcs, hreturn⟩ := bind_eq_ok.mp h
    obtain rfl := Except.ok.inj hreturn
    refine ⟨cs, mapM_eq_ok.mp hcs, ?_⟩
    rw [candidatesOf_recorded]
    exact (List.mergeSort_perm _ _).symm

/-- The outputs of a snapshot have the candidates of its findings. -/
theorem expectedOutputs_candidates {files : List (SnapshotFileV1 × SourceParse)}
    {outputs : List ScanOutput} {counts : ℕ × ℕ}
    (h : FixtureScan.expectedOutputs E lower b files = .ok (outputs, counts)) :
    ∃ cs, List.Forall₂ (fun x c => StaticCandidateV1.fromFinding E b x.1.artifactDigest x.2 = .ok c)
        (snapshotFindings lower files) cs ∧ cs.Perm (candidatesOf outputs) := by
  obtain ⟨parts, hparts, hreturn⟩ := bind_eq_ok.mp h
  obtain ⟨rfl, -⟩ := Prod.mk.inj (Except.ok.inj hreturn)
  replace hparts := mapM_eq_ok.mp hparts
  clear h hreturn
  induction hparts with
  | nil => exact ⟨[], .nil, .nil⟩
  | cons hfile _ ih =>
    obtain ⟨cs, hcs, hperm⟩ := fileOutputs_candidates hfile
    obtain ⟨rest, hrest, hpermRest⟩ := ih
    refine ⟨cs ++ rest, ?_, ?_⟩
    · rw [snapshotFindings, List.flatMap_cons]
      refine List.rel_append ?_ hrest
      exact List.forall₂_map_left_iff.mpr hcs
    · rw [List.flatten_cons, candidatesOf_append]
      exact hperm.append hpermRest

/-- A candidate comes from a finding. -/
theorem mem_of_forall₂ {xs : List (SnapshotFileV1 × Sast.StaticFinding)}
    {cs : List StaticCandidateV1}
    (h : List.Forall₂ (fun x c =>
      StaticCandidateV1.fromFinding E b x.1.artifactDigest x.2 = .ok c) xs cs)
    {c : StaticCandidateV1} (hc : c ∈ cs) :
    ∃ x ∈ xs, StaticCandidateV1.fromFinding E b x.1.artifactDigest x.2 = .ok c := by
  induction h with
  | nil => exact absurd hc List.not_mem_nil
  | @cons x c' xs cs hx _ ih =>
    rcases List.mem_cons.mp hc with rfl | hc
    · exact ⟨x, List.mem_cons_self, hx⟩
    · obtain ⟨y, hy, hok⟩ := ih hc
      exact ⟨y, List.mem_cons_of_mem _ hy, hok⟩

/-- The candidates of findings are known by the path and the key of these. -/
theorem map_knownBy {xs : List (SnapshotFileV1 × Sast.StaticFinding)}
    {cs : List StaticCandidateV1}
    (h : List.Forall₂ (fun x c =>
      StaticCandidateV1.fromFinding E b x.1.artifactDigest x.2 = .ok c) xs cs) :
    cs.map knownBy = xs.map fun x => (x.2.file, findingKey x.2) := by
  induction h with
  | nil => rfl
  | cons hx _ ih => rw [List.map_cons, List.map_cons, knownBy_fromFinding hx, ih]

end Outputs

/-! ## Distinct candidates -/

/-- The files of a snapshot with distinct paths, and what the analyzer makes of their bytes. The
trees have any shape and any positions. -/
structure ParsedSnapshot where
  files : List (SnapshotFileV1 × SourceParse)
  paths : (files.map fun file => file.1.relativePath).Nodup

/-- No tree of the files has a receiver, a misplaced or a target clash. -/
def ClashFree (lower : String → String) (files : List (SnapshotFileV1 × SourceParse)) : Prop :=
  ∀ file ∈ files, ∀ lines tree, file.2 = .parsed lines tree →
    (¬ReceiverClash tree ∧ ¬MisplacedClash lower tree) ∧ ¬TargetClash lower tree

section Distinct

variable {E} {lower : String → String} {b : ScanBinding}

/-- The findings of every file are distinct exactly when no tree has a clash. -/
theorem fileFindings_nodup_iff (s : ParsedSnapshot) :
    (∀ file ∈ s.files, ((fileFindings lower file).map findingKey).Nodup) ↔
      ClashFree lower s.files := by
  refine forall₂_congr fun file _ => ?_
  obtain ⟨file, parse⟩ := file
  cases parse with
  | failed failure =>
    refine iff_of_true List.nodup_nil ?_
    intro lines tree h
    exact absurd h (by simp)
  | parsed lines tree =>
    refine (Sast.findings_nodup_iff lower file.relativePath lines tree).trans ?_
    constructor
    · intro h lines' tree' heq
      obtain ⟨-, rfl⟩ := SourceParse.parsed.inj heq
      exact h
    · intro h
      exact h lines tree rfl

/-- A finding in a file names its path, and has the severity of its rule. -/
theorem mem_fileFindings {file : SnapshotFileV1 × SourceParse} {f : Sast.StaticFinding}
    (h : f ∈ fileFindings lower file) :
    f.file = file.1.relativePath ∧ f.severity = Sast.ruleSeverity f.ruleId := by
  obtain ⟨file, parse⟩ := file
  cases parse with
  | failed failure => exact absurd h List.not_mem_nil
  | parsed lines tree => exact Sast.mem_scanSource lower h

theorem mem_snapshotFindings {files : List (SnapshotFileV1 × SourceParse)}
    {x : SnapshotFileV1 × Sast.StaticFinding} (h : x ∈ snapshotFindings lower files) :
    x.1 ∈ files.map Prod.fst ∧ x.2.file = x.1.relativePath ∧
      x.2.severity = Sast.ruleSeverity x.2.ruleId := by
  obtain ⟨file, hfile, hx⟩ := List.mem_flatMap.mp h
  obtain ⟨f, hf, rfl⟩ := List.mem_map.mp hx
  exact ⟨List.mem_map_of_mem hfile, mem_fileFindings hf⟩

/-- The findings of a snapshot are distinct with their paths exactly when those of every file
are. -/
theorem snapshotKeys_nodup_iff (s : ParsedSnapshot) :
    ((snapshotFindings lower s.files).map fun x => (x.2.file, findingKey x.2)).Nodup ↔
      ∀ file ∈ s.files, ((fileFindings lower file).map findingKey).Nodup := by
  have hfile : ∀ file : SnapshotFileV1 × SourceParse,
      ((fileFindings lower file).map (file.1, ·)).map (fun x => (x.2.file, findingKey x.2)) =
        ((fileFindings lower file).map findingKey).map (file.1.relativePath, ·) := by
    intro file
    rw [List.map_map, List.map_map]
    exact List.map_congr_left fun f hf => congrArg (·, findingKey f) (mem_fileFindings hf).1
  rw [snapshotFindings, List.map_flatMap]
  simp only [hfile]
  rw [List.nodup_flatMap]
  have hapart : s.files.Pairwise (Function.onFun List.Disjoint fun file =>
      ((fileFindings lower file).map findingKey).map (file.1.relativePath, ·)) := by
    refine (List.pairwise_map.mp s.paths).imp fun hne => ?_
    rintro ⟨path, key⟩ hx hy
    obtain ⟨_, _, h⟩ := List.mem_map.mp hx
    obtain ⟨_, _, h'⟩ := List.mem_map.mp hy
    exact hne ((congrArg Prod.fst h).trans (congrArg Prod.fst h').symm)
  have hmap : ∀ file : SnapshotFileV1 × SourceParse,
      (((fileFindings lower file).map findingKey).map (file.1.relativePath, ·)).Nodup ↔
        ((fileFindings lower file).map findingKey).Nodup :=
    fun file => List.nodup_map_iff (Prod.mk_right_injective file.1.relativePath)
  simp only [hmap, and_iff_left hapart]

/-- Candidates of a snapshot have one identity exactly when they are known by the same. -/
theorem candidateId_eq_iff (s : ParsedSnapshot) {cs : List StaticCandidateV1}
    (hcs : List.Forall₂ (fun x c =>
      StaticCandidateV1.fromFinding E b x.1.artifactDigest x.2 = .ok c)
      (snapshotFindings lower s.files) cs)
    (hfree : CollisionFreeBodies E cs) {c c' : StaticCandidateV1} (hc : c ∈ cs) (hc' : c' ∈ cs) :
    c.candidateId = c'.candidateId ↔ knownBy c = knownBy c' := by
  obtain ⟨⟨file, f⟩, hx, hok⟩ := mem_of_forall₂ hcs hc
  obtain ⟨⟨file', f'⟩, hx', hok'⟩ := mem_of_forall₂ hcs hc'
  refine ⟨knownBy_of_id hfree hc hc' hok hok', fun h => ?_⟩
  obtain ⟨hmem, hpath, hseverity⟩ := mem_snapshotFindings hx
  obtain ⟨hmem', hpath', hseverity'⟩ := mem_snapshotFindings hx'
  rw [knownBy_fromFinding hok, knownBy_fromFinding hok'] at h
  obtain ⟨hfile, hkey⟩ := Prod.mk.inj h
  have hnodup : ((s.files.map Prod.fst).map SnapshotFileV1.relativePath).Nodup := by
    rw [List.map_map]
    exact s.paths
  have hsame : file = file' :=
    List.inj_on_of_nodup_map hnodup hmem hmem' (hpath.symm.trans (hfile.trans hpath'))
  subst hsame
  have hrule : f.ruleId = f'.ruleId := congrArg Prod.fst hkey
  have hequal : StaticCandidateV1.fromFinding E b file.artifactDigest f =
      StaticCandidateV1.fromFinding E b file.artifactDigest f' :=
    fromFinding_same hfile hkey
      (hseverity.trans ((congrArg Sast.ruleSeverity hrule).trans hseverity'.symm))
  rw [Except.ok.inj (hok.symm.trans (hequal.trans hok'))]

end Distinct

/-- ASCII lower case. -/
def asciiLower (s : String) : String := String.ofList (s.toList.map Char.toLower)

/-- `token = token = "x"`. -/
def repeatedTarget : Ast :=
  .other [.assign (toLex (1, 0)) [.name "token", .name "token"] (.constant (.str "x"))]

/-- `execute(a + b).execute(c + d)`. -/
def chainedExecute : Ast :=
  .other [.other [.call (toLex (1, 0))
    (.attribute (.call (toLex (1, 0)) (.name "execute")
      [.binOp (.name "a") .add (.name "b")] []) "execute")
    [.binOp (.name "c") .add (.name "d")] []]]

/-- The calls of `f'''x{eval(a)}{f"""{eval(b)}\n"""}'''`, where the second format string ends a
line, as CPython 3.11 places them. -/
def nestedFormat : Ast :=
  .other [.other [.joinedStr [.constant (.str "x"),
    .formattedValue [.call (toLex (1, 6)) (.name "eval") [.name "a"] []],
    .formattedValue [.joinedStr [
      .formattedValue [.call (toLex (1, 6)) (.name "eval") [.name "b"] []],
      .constant (.str "\n")]]]]]

/-- `eval(x)` on two lines. -/
def plainEvals : Ast :=
  .other [.other [.call (toLex (1, 0)) (.name "eval") [.name "x"] []],
    .other [.call (toLex (2, 0)) (.name "eval") [.name "x"] []]]

theorem repeatedTarget_documented : Documented repeatedTarget where
  placed := by
    refine ⟨toLex (1, 0), toLex (1, 19), [(toLex (1, 0), toLex (1, 19))], by decide, ?_, trivial⟩
    refine ⟨[(toLex (1, 0), toLex (1, 5)), (toLex (1, 8), toLex (1, 13))],
      (toLex (1, 16), toLex (1, 19)), by decide, by decide, by decide, ?_, trivial⟩
    exact ⟨trivial, trivial, trivial⟩
  grammar := by decide

theorem chainedExecute_documented : Documented chainedExecute where
  placed := by
    refine ⟨toLex (1, 0), toLex (1, 29), [(toLex (1, 0), toLex (1, 29))], by decide, ?_, trivial⟩
    refine ⟨[(toLex (1, 0), toLex (1, 29))], by decide, ?_, trivial⟩
    refine ⟨toLex (1, 22), [(toLex (1, 23), toLex (1, 28))], [], by decide, by decide, by decide,
      ?_, by decide, ⟨⟨(toLex (1, 23), toLex (1, 24)), (toLex (1, 27), toLex (1, 28)), by decide,
        trivial, trivial⟩, trivial⟩, trivial⟩
    exact ⟨toLex (1, 7), [(toLex (1, 8), toLex (1, 13))], [], by decide, by decide, by decide,
      trivial, by decide, ⟨⟨(toLex (1, 8), toLex (1, 9)), (toLex (1, 12), toLex (1, 13)), by decide,
        trivial, trivial⟩, trivial⟩, trivial⟩
  grammar := by decide

/-- The scan of one file. -/
def sampleBinding : ScanBinding := ⟨sampleZero, sampleZero, sampleZero, sampleZero⟩

/-- A snapshot of `eval(x)` on two lines. -/
def sampleSnapshot : ParsedSnapshot where
  files := [(⟨"a.py", sampleZero, 15⟩, .parsed ["eval(x)", "eval(x)"] plainEvals)]
  paths := List.nodup_singleton _

/-- The finding of `eval(x)` on a line. -/
def sampleFinding (line : ℕ) : Sast.StaticFinding where
  ruleId := "PY-CODE-INJECTION"
  severity := "critical"
  message := "eval() on a non-literal expression enables code injection"
  file := "a.py"
  line := line
  column := 0
  symbol := "eval"
  snippet := "eval(x)"

theorem plainEvals_findings :
    scanSource asciiLower "a.py" ["eval(x)", "eval(x)"] plainEvals =
      [sampleFinding 1, sampleFinding 2] := by
  decide +kernel

def sampleCandidate (line : ℕ) (candidateId : String) : StaticCandidateV1 :=
  { sampleBinding.candidate sampleZero (sampleFinding line) with
    claimId := sampleZero, candidateId := candidateId }

/-- The identity of the candidate on the second line. -/
def sampleOne : String := contentIdText 1

/-- One digest for the marked bytes and another for all else. -/
def sampleScanEnv (marked : ByteArray) : WireEnv :=
  { sampleWireEnv with sha256 := fun p => if p = marked then 1 else 0 }

/-- What the body and the claim of a sample candidate pass. -/
structure SamplePasses (line : ℕ) : Prop where
  kind : validateKind "candidate" true = .ok "candidate"
  claimKind : isSnakeCase "static_claim" = true
  valid : (validateCandidateBody "" (sampleCandidate line "").members).isOk = true
  body : ∃ members, (sampleCandidate line "").body = .obj members ∧
    Representable sampleWireEnv.nfc "candidate" members
  claim : ∃ claim, (∀ E, staticClaimId E (sampleCandidate line "") =
      WireEnv.contentId E "static_claim" claim) ∧
    Admitted sampleWireEnv.nfc 0 claim ∧ nodes claim ≤ maxTotalNodes ∧ weight claim ≤ maxWireBytes

theorem sampleCandidate_passes {line : ℕ} (hline : line = 1 ∨ line = 2) : SamplePasses line := by
  have hkind : validateKind "candidate" true = .ok "candidate" := by decide +kernel
  have hplain : PlainFields ((sampleCandidate 0 "").members.map Prod.fst) := by decide +kernel
  rcases hline with rfl | rfl <;>
    exact
      { kind := hkind
        claimKind := by decide +kernel
        valid := by decide +kernel
        body := ⟨_, rfl, representable_of_weight hkind
          (admitted_plain hplain (by decide +kernel) (by decide)) (by decide) (by decide +kernel)⟩
        claim := ⟨_, fun _ => rfl, admitted_plain (by decide +kernel) (by decide +kernel)
          (by decide), by decide, by decide +kernel⟩ }

/-- The candidate of a line is created under the digest of its body. -/
theorem sampleCandidate_created (marked : ByteArray) {line : ℕ} (hline : line = 1 ∨ line = 2) :
    ∃ p envelope, contentPreimage sampleWireEnv.nfc "candidate" (sampleCandidate line "").body =
        .ok p ∧ normalized sampleWireEnv.nfc (sampleCandidate line "").body =
          .ok (sampleCandidate line "").body ∧
      (sampleScanEnv marked).create "candidate" (sampleCandidate line "").body = .ok envelope ∧
      envelope.objectId = contentIdText ((sampleScanEnv marked).sha256 p) := by
  have hpasses := sampleCandidate_passes hline
  obtain ⟨members, hbody, hfits⟩ := hpasses.body
  have hnormal : normalized sampleWireEnv.nfc (.obj members) = .ok (.obj members) :=
    normalized_of_admitted (hfits.admitted.above (Nat.zero_le 1)) (by have := hfits.few; omega)
  have hcreated : ∃ p, contentPreimage sampleWireEnv.nfc "candidate" (.obj members) = .ok p ∧
      EnvelopeV1.create sampleWireEnv.nfc (sampleScanEnv marked).sha256 "candidate" (.obj members)
        (.arr []) = .ok (plainEnvelope "candidate" ((sampleScanEnv marked).sha256 p) members) :=
    hfits.create hpasses.kind hnormal
  obtain ⟨p, hp, hcreate⟩ := hcreated
  rw [hbody]
  exact ⟨p, _, hp, hnormal, WireEnv.create_eq_ok.mpr hcreate, rfl⟩

/-- A value of another kind has the other digest than a marked body. -/
theorem sampleScanEnv_contentId {marked : ByteArray} {kind : String} {v w : Json}
    (hmarked : contentPreimage sampleWireEnv.nfc "candidate" w = .ok marked)
    (hkind : isSnakeCase kind = true) (hother : kind ≠ "candidate")
    (hv : Admitted sampleWireEnv.nfc 0 v) (hnodes : nodes v ≤ maxTotalNodes)
    (hweight : weight v ≤ maxWireBytes) :
    (sampleScanEnv marked).contentId kind v = .ok sampleZero := by
  obtain ⟨hdumps, -⟩ := canonicalDumps_weight (normalized_of_admitted hv hnodes) hweight
  obtain ⟨p, hp⟩ : ∃ p, contentPreimage sampleWireEnv.nfc kind v = .ok p :=
    ⟨_, contentPreimage_eq_ok.mpr ⟨hkind, _, hdumps, rfl⟩⟩
  have hunmarked : p ≠ marked := by
    rintro rfl
    exact hother (contentPreimage_inj hp hmarked).1
  have hdigest : (sampleScanEnv marked).sha256 p = 0 := if_neg hunmarked
  refine WireEnv.contentId_eq_ok.mpr (bind_eq_ok.mpr ⟨p, hp, ?_⟩)
  rw [hdigest, sampleZero_eq]
  rfl

/-- The claims of the sample candidates are not marked. -/
theorem sampleClaim_identified {marked : ByteArray} {w : Json}
    (hmarked : contentPreimage sampleWireEnv.nfc "candidate" w = .ok marked) {line : ℕ}
    (hline : line = 1 ∨ line = 2) :
    staticClaimId (sampleScanEnv marked) (sampleCandidate line "") = .ok sampleZero := by
  have hpasses := sampleCandidate_passes hline
  obtain ⟨claim, hclaim, hadmitted, hnodes, hweight⟩ := hpasses.claim
  rw [hclaim]
  exact sampleScanEnv_contentId hmarked hpasses.claimKind (by decide) hadmitted hnodes hweight

/-- The checks of a body do not read the identity that it is given. -/
theorem map_validateCandidateBody (id : String) (body : Members) :
    (fun c : StaticCandidateV1 => { c with candidateId := id }) <$> validateCandidateBody "" body =
      validateCandidateBody id body := by
  simp only [validateCandidateBody, map_bind, map_pure]

/-- A finding of the sample is recorded under the digest of its body. -/
theorem sampleFinding_recorded {marked : ByteArray} {w : Json}
    (hmarked : contentPreimage sampleWireEnv.nfc "candidate" w = .ok marked) {line : ℕ}
    (hline : line = 1 ∨ line = 2) {p : ByteArray}
    (hp : contentPreimage sampleWireEnv.nfc "candidate" (sampleCandidate line "").body = .ok p) :
    StaticCandidateV1.fromFinding (sampleScanEnv marked) sampleBinding sampleZero
      (sampleFinding line) =
        .ok (sampleCandidate line (contentIdText ((sampleScanEnv marked).sha256 p))) := by
  obtain ⟨p', envelope, hp', -, hcreate, hobject⟩ := sampleCandidate_created marked hline
  obtain rfl := Except.ok.inj (hp.symm.trans hp')
  generalize hid : contentIdText ((sampleScanEnv marked).sha256 p) = id at hobject ⊢
  have hshape : isContentId id = true := by
    rw [← hid]
    exact isContentId_contentIdText _
  obtain ⟨c, hc⟩ := isOk_iff.mp (sampleCandidate_passes hline).valid
  have hnamed := map_validateCandidateBody id (sampleCandidate line id).members
  rw [show (sampleCandidate line id).members = (sampleCandidate line "").members from rfl, hc]
    at hnamed
  have hpost : (sampleCandidate line id).postInit (sampleScanEnv marked) = .ok () := by
    have hclaim : ¬(sampleCandidate line id).claimId ≠ sampleZero := not_not.mpr rfl
    have hidentified : staticClaimId (sampleScanEnv marked) (sampleCandidate line id) =
        .ok sampleZero := sampleClaim_identified hmarked hline
    have hcreated : (sampleScanEnv marked).create "candidate" (sampleCandidate line id).body =
        .ok envelope := hcreate
    refine unit_bind_eq_ok.mpr ⟨refuseIf_eq_ok.mpr (by simp [sampleCandidate, hshape]), ?_⟩
    refine bind_eq_ok.mpr ⟨_, hnamed.symm, ?_⟩
    rw [bind_of_ok hidentified, refuseIf_bind_of_not hclaim, bind_of_ok hcreated, refuseIf_eq_ok]
    exact not_not.mpr hobject
  have hcandidate : { sampleCandidate line "" with candidateId := envelope.objectId } =
      sampleCandidate line id := by
    rw [hobject]
    rfl
  exact bind_eq_ok.mpr ⟨_, sampleClaim_identified hmarked hline, bind_eq_ok.mpr ⟨_, hc,
    bind_eq_ok.mpr ⟨_, hcreate, unit_bind_eq_ok.mpr
      ⟨hcandidate ▸ hpost, congrArg Except.ok hcandidate⟩⟩⟩⟩

/-- The bodies of the two lines have different preimages. -/
theorem sampleCandidate_preimages : ∃ p q,
    contentPreimage sampleWireEnv.nfc "candidate" (sampleCandidate 1 "").body = .ok p ∧
    contentPreimage sampleWireEnv.nfc "candidate" (sampleCandidate 2 "").body = .ok q ∧
    p ≠ q := by
  obtain ⟨p, -, hp, hnormal, -⟩ := sampleCandidate_created .empty (.inl rfl)
  obtain ⟨q, -, hq, hnormal', -⟩ := sampleCandidate_created .empty (.inr rfl)
  refine ⟨p, q, hp, hq, ?_⟩
  rintro rfl
  obtain ⟨-, heq⟩ := contentPreimage_inj hp hq
  have hbodies := Except.ok.inj (hnormal.symm.trans (heq.trans hnormal'))
  exact absurd hbodies (by simp [StaticCandidateV1.body, sampleCandidate, ScanBinding.candidate,
    sampleFinding])

end Etzio.Wire
