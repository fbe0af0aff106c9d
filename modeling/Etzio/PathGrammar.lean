import Etzio.EventCodec

/-!
# The grammar of relative paths

Four modules check a relative path : a snapshot when it names a file, a candidate, a parse failure
and a target artifact binding when they name one of its files. `RefusedPath` is what all four
refuse. The last three also refuse edge whitespace (`requireText_isOk`), and a snapshot does not.

* `path_grammar` : the four agree on a path exactly when it has no edge whitespace or is refused
  by all of them, and a path of a snapshot can be named by the others exactly when it has no edge
  whitespace.
* `path_grammar_edge` : a snapshot has a file ` a.py` that no candidate, parse failure or
  artifact binding can name.
-/

open CheckedRun JsonText

namespace Etzio.Wire

/-- A path that is not normalized and relative, or has a forbidden character. -/
def RefusedPath (p : String) : Prop :=
  p = "." ∨ isAbsolute p = true ∨ asPosix p ≠ p ∨ ".." ∈ pathParts p ∨ '\\' ∈ p.toList ∨
    '\x00' ∈ p.toList

theorem isRelativePath_iff (p : String) : isRelativePath p = true ↔ ¬RefusedPath p := by
  simp only [isRelativePath, RefusedPath, Bool.and_eq_true, decide_eq_true_eq,
    Bool.not_eq_true', not_or, not_not, Bool.not_eq_true]
  tauto

/-- No path of no characters is its own posix text. -/
theorem refusedPath_empty : RefusedPath "" := .inr (.inr (.inl (by decide)))

theorem isNonblank_iff (p : String) : isNonblank p = true ↔ p ≠ "" ∧ strip p = p := by
  rw [isNonblank, Bool.and_eq_true, decide_eq_true_eq, decide_eq_true_eq, eq_comm (a := p)]

/-! ## The validators -/

section Validators

variable (E : WireEnv) {p : String}

/-- A text without edge whitespace that is then checked as a path. -/
theorem requireText_isOk {blank malformed : WireError} {x : Except WireError String}
    (hx : x = do
      let text ← textOf (.str p) isNonblank blank
      refuseIf (isRelativePath text = false) malformed
      return text) : x.isOk = true ↔ strip p = p ∧ ¬RefusedPath p := by
  have hok : x.isOk = true ↔ isNonblank p = true ∧ isRelativePath p = true := by
    simp only [isOk_iff, hx, bind_eq_ok, textOf_eq_ok, refuseIf_eq_ok, exists_const,
      Bool.not_eq_false, pure, Except.pure, Except.ok.injEq, Json.str.injEq]
    constructor
    · rintro ⟨_, _, ⟨rfl, hblank⟩, hpath, -⟩
      exact ⟨hblank, hpath⟩
    · rintro ⟨hblank, hpath⟩
      exact ⟨p, p, ⟨rfl, hblank⟩, hpath, rfl⟩
  rw [hok, isNonblank_iff, isRelativePath_iff]
  constructor
  · rintro ⟨⟨-, hstrip⟩, hpath⟩
    exact ⟨hstrip, hpath⟩
  · rintro ⟨hstrip, hpath⟩
    refine ⟨⟨?_, hstrip⟩, hpath⟩
    rintro rfl
    exact hpath refusedPath_empty

theorem missionPath_isOk :
    (missionPath [("relative_path", .str p)]).isOk = true ↔ strip p = p ∧ ¬RefusedPath p :=
  requireText_isOk rfl

theorem requireRelativePath_isOk :
    (requireRelativePath (.str p)).isOk = true ↔ strip p = p ∧ ¬RefusedPath p :=
  requireText_isOk rfl

theorem artifactPath_isOk :
    (artifactPath (.str p)).isOk = true ↔ strip p = p ∧ ¬RefusedPath p :=
  requireText_isOk rfl

/-- A snapshot names every normalized path, with or without edge whitespace. -/
theorem validateSnapshotPath_eq_ok (hnfc : E.nfc p = true) {text : String} :
    validateSnapshotPath E (.str p) = .ok text ↔ p = text ∧ ¬RefusedPath p := by
  simp only [validateSnapshotPath, bind_eq_ok, textOf_eq_ok, refuseIf_eq_ok, exists_const,
    pure, Except.pure, Except.ok.injEq, Json.str.injEq, decide_eq_true_eq]
  constructor
  · rintro ⟨_, ⟨rfl, -⟩, -, hrelative, hposix, hforbidden, htext⟩
    refine ⟨htext, ?_⟩
    rintro (h | h | h | h | h)
    · exact hrelative (.inl h)
    · exact hrelative (.inr (.inl h))
    · exact hposix h
    · exact hrelative (.inr (.inr h))
    · exact hforbidden h
  · rintro ⟨rfl, hpath⟩
    refine ⟨p, ⟨rfl, ?_⟩, by simp [hnfc], ?_, fun h => hpath (.inr (.inr (.inl h))), ?_, rfl⟩
    · rintro rfl
      exact hpath refusedPath_empty
    · rintro (h | h | h)
      · exact hpath (.inl h)
      · exact hpath (.inr (.inl h))
      · exact hpath (.inr (.inr (.inr (.inl h))))
    · exact fun h => hpath (.inr (.inr (.inr (.inr h))))

theorem validateSnapshotPath_isOk (hnfc : E.nfc p = true) :
    (validateSnapshotPath E (.str p)).isOk = true ↔ ¬RefusedPath p := by
  simp only [isOk_iff, validateSnapshotPath_eq_ok E hnfc, exists_eq_left']

/-- The path of a file of a snapshot is the one it was made with, and not refused. -/
theorem path_of_file (hnfc : E.nfc p = true) {digest size : Json} {file : SnapshotFileV1}
    (h : SnapshotFileV1.new E (.str p) digest size = .ok file) :
    file.relativePath = p ∧ ¬RefusedPath p := by
  rw [SnapshotFileV1.new, bind_eq_ok] at h
  obtain ⟨text, htext, h⟩ := h
  rw [bind_eq_ok] at h
  obtain ⟨_, -, h⟩ := h
  rw [bind_eq_ok] at h
  obtain ⟨_, -, h⟩ := h
  obtain rfl := Except.ok.inj h
  obtain ⟨rfl, hpath⟩ := (validateSnapshotPath_eq_ok E hnfc).mp htext
  exact ⟨rfl, hpath⟩

end Validators

/-! ## Agreement -/

section Agreement

variable (E : WireEnv) {p : String}

/-- The four validators accept or refuse a path alike. -/
def PathsAgree (p : String) : Prop :=
  (validateSnapshotPath E (.str p)).isOk = (missionPath [("relative_path", .str p)]).isOk ∧
    (missionPath [("relative_path", .str p)]).isOk = (requireRelativePath (.str p)).isOk ∧
    (requireRelativePath (.str p)).isOk = (artifactPath (.str p)).isOk

instance : Decidable (PathsAgree E p) := inferInstanceAs (Decidable (_ ∧ _))

/-- A candidate, a parse failure and a target artifact binding can name a path. -/
def Nameable (p : String) : Prop :=
  (missionPath [("relative_path", .str p)]).isOk = true ∧
    (requireRelativePath (.str p)).isOk = true ∧ (artifactPath (.str p)).isOk = true

instance : Decidable (Nameable p) := inferInstanceAs (Decidable (_ ∧ _))

theorem sameOutcome_iff {x y : Except WireError String} {P Q : Prop}
    (hx : x.isOk = true ↔ P) (hy : y.isOk = true ↔ Q) : x.isOk = y.isOk ↔ (P ↔ Q) := by
  rw [Bool.eq_iff_iff, hx, hy]

theorem nameable_iff : Nameable p ↔ strip p = p ∧ ¬RefusedPath p := by
  rw [Nameable, missionPath_isOk, requireRelativePath_isOk, artifactPath_isOk]
  tauto

theorem pathsAgree_iff (hnfc : E.nfc p = true) :
    PathsAgree E p ↔ strip p = p ∨ RefusedPath p := by
  rw [PathsAgree, sameOutcome_iff (validateSnapshotPath_isOk E hnfc) missionPath_isOk,
    sameOutcome_iff missionPath_isOk requireRelativePath_isOk,
    sameOutcome_iff requireRelativePath_isOk artifactPath_isOk]
  by_cases hstrip : strip p = p <;> by_cases hpath : RefusedPath p <;> simp [hstrip, hpath]

/-- The validators agree on a path exactly when it has no edge whitespace or all refuse it, and
a file of a snapshot can be named by the records about it exactly when its path has none. -/
theorem path_grammar (hnfc : E.nfc p = true) :
    (PathsAgree E p ↔ strip p = p ∨ RefusedPath p) ∧
      ∀ digest size file, SnapshotFileV1.new E (.str p) digest size = .ok file →
        (Nameable file.relativePath ↔ strip p = p) := by
  refine ⟨pathsAgree_iff E hnfc, fun digest size file hfile => ?_⟩
  obtain ⟨rfl, hpath⟩ := path_of_file E hnfc hfile
  rw [nameable_iff]
  exact ⟨fun h => h.1, fun h => ⟨h, hpath⟩⟩

/-- A file ` a.py` can be part of a snapshot, and its path is a path of no other record. -/
theorem path_grammar_edge :
    sampleWireEnv.nfc " a.py" = true ∧
      (SnapshotFileV1.new sampleWireEnv (.str " a.py") (.str sampleZero) (.int 0)).isOk = true ∧
      ¬PathsAgree sampleWireEnv " a.py" ∧ ¬Nameable " a.py" := by
  decide +kernel

/-- A file `a.py` of a snapshot can be named by every record. -/
theorem path_grammar_plain :
    PathsAgree sampleWireEnv "a.py" ∧
      ∃ file, SnapshotFileV1.new sampleWireEnv (.str "a.py") (.str sampleZero) (.int 0) = .ok file ∧
        Nameable file.relativePath := by
  obtain ⟨hagree, hnames⟩ := path_grammar sampleWireEnv (p := "a.py") rfl
  have hfile : SnapshotFileV1.new sampleWireEnv (.str "a.py") (.str sampleZero) (.int 0) =
      .ok ⟨"a.py", sampleZero, 0⟩ := rfl
  exact ⟨hagree.mpr (.inl (by decide)), _, hfile, (hnames _ _ _ hfile).mpr (by decide)⟩

end Agreement

end Etzio.Wire
