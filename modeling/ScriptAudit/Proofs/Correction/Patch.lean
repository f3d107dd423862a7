import ScriptAudit.Correction.Patch
import ScriptAudit.Proofs.Files.OrderMark
import ScriptAudit.Proofs.Files.Tree
import ScriptAudit.Proofs.Syntax.File
import ScriptAudit.Proofs.Syntax.Parsed
import ScriptAudit.Proofs.Syntax.Preorder

namespace ScriptAudit.Correction

/-! Patching a file at the places that its parse gives. -/

open Files Source Syntax

theorem apply_single (base file : String) {text : String} {diagnostic : Diagnostic}
    {correction : Correction} {start stop : Nat}
    (first : diagnostic.preferredCorrection = some correction)
    (same : Files.sameFile base file correction.extent.file)
    (begins : (LineIndex.ofText text.toList).offset? correction.extent.start = some start)
    (ends : (LineIndex.ofText text.toList).offset? correction.extent.stop = some stop)
    (ordered : start ≤ stop) :
    apply base file text [diagnostic] =
      ⟨String.ofList (text.toList.take start ++ correction.text.toList ++ text.toList.drop stop),
        1, []⟩ := by
  have edited : Subject.edit ⟨.ofText text.toList, file, base⟩ diagnostic correction =
      .ok ⟨start, stop, diagnostic, correction⟩ := by
    simp only [Subject.edit, same, begins, ends]
    rw [if_neg (Nat.not_lt.mpr ordered)]
    rfl
  simp [apply, Subject.collect, first, edited, inOrder, sweep, splice]

/-- A file is parsed as its text without the mark and with unified line breaks. -/
theorem parseFile_eq {tree : FileTree} {path old : String} {content : ByteArray}
    (read : tree.read path = .ok content) (decoded : Encoding.utf8.decode? content = some old) :
    parseFile tree path =
      (parseText (String.ofList (parsedText old.toList)) path).mapError .fault := by
  rw [parseFile_read read, dataFileText?_eq decoded]

theorem parseFile_parsed {tree : FileTree} {path old : String} {content : ByteArray}
    {result : ParseResult} (read : tree.read path = .ok content)
    (decoded : Encoding.utf8.decode? content = some old)
    (parsed : parseFile tree path = .ok result) (clean : result.issues = []) :
    Parsed (String.ofList (parsedText old.toList)) path result.tree := by
  rw [parseFile_eq read decoded] at parsed
  cases ran : parseText (String.ofList (parsedText old.toList)) path with
  | ok found =>
      rw [ran] at parsed
      cases parsed
      exact parseText_parsed ran clean
  | error fault =>
      rw [ran] at parsed
      cases parsed

theorem patch_changed {tree : FileTree} {path old : String} {content : ByteArray}
    {diagnostics : List Diagnostic} (read : tree.read path = .ok content)
    (decoded : Encoding.utf8.decode? content = some old)
    (changed : (apply tree.current (tidy path) old diagnostics).changed) :
    patch tree path .utf8 diagnostics =
      .ok (apply tree.current (tidy path) old diagnostics,
        (apply tree.current (tidy path) old diagnostics).text.toUTF8) := by
  unfold patch
  rw [read]
  dsimp only [bind, Except.bind]
  rw [decoded]
  dsimp only
  rw [if_pos changed]
  rfl

/-- A correction that replaces a node of the tree of a file is applied, and replaces one piece of
the file.  But for its line breaks the piece is the text of the node, unless the file has a byte
order mark and the node begins on the first line: then this holds only when all of the text of the
node is the character in front of it. -/
theorem patch_replaces_node {tree : FileTree} {path old : String} {content : ByteArray}
    {result : ParseResult} {node : Node} {diagnostic : Diagnostic} {correction : Correction}
    (read : tree.read path = .ok content) (decoded : Encoding.utf8.decode? content = some old)
    (parsed : parseFile tree path = .ok result) (clean : result.issues = [])
    (member : node ∈ result.tree.walk true)
    (first : diagnostic.preferredCorrection = some correction)
    (placed : correction.extent = node.extent) :
    ∃ before region after outcome, old.toList = before ++ region ++ after ∧
      (LineIndex.ofText old.toList).offset? node.extent.start = some before.length ∧
      (LineIndex.ofText old.toList).offset? node.extent.stop =
        some (before.length + region.length) ∧
      patch tree path .utf8 [diagnostic] = .ok (outcome, outcome.text.toUTF8) ∧
      outcome.text = String.ofList (before ++ correction.text.toList ++ after) ∧
      outcome.applied = 1 ∧ outcome.skipped = [] ∧
      (unifyLineBreaks region = node.extent.text.toList ↔
        (old.toList.head? = some orderMark → node.extent.start.line = 1 →
          ∀ c ∈ node.extent.text.toList, old.toList[before.length]? = some c)) := by
  have whole := parseFile_parsed read decoded parsed clean
  obtain ⟨start, stop, -, -, spans⟩ := whole.spans.of_mem_walk member
  have ordered := spans.ordered
  have inside : stop ≤ (parsedText old.toList).length := by
    simpa [originOf, LineIndex.ofText] using spans.inside
  have extent : node.extent =
      (LineIndex.ofText (parsedText old.toList)).extent path start stop := by
    simpa [originOf] using spans.placed
  have starts : node.extent.start = parsedPosition old.toList start := by rw [extent]; rfl
  have stops : node.extent.stop = parsedPosition old.toList stop := by rw [extent]; rfl
  have file : node.extent.file = path := by rw [extent]; rfl
  have piece : node.extent.text.toList =
      ((parsedText old.toList).drop start).take (stop - start) := by
    rw [extent]
    simp [LineIndex.extent, LineIndex.slice, LineIndex.ofText]
  have begins := offset?_parsedPosition old.toList (Nat.le_trans ordered inside)
  have ends := offset?_parsedPosition old.toList inside
  obtain ⟨parts, front, sum⟩ := landedRegion_parts ordered inside
  have done := apply_single tree.current (tidy path) first
    (by rw [placed, file]; exact sameFile_tidy tree.current path)
    (by rw [placed, starts]; exact begins) (by rw [placed, stops]; exact ends)
    (landing_le_landing old.toList ordered)
  refine ⟨old.toList.take (landing old.toList start), landedRegion old.toList start stop,
    old.toList.drop (landing old.toList stop), _, parts, ?_, ?_, ?_, congrArg Outcome.text done,
    congrArg Outcome.applied done, congrArg Outcome.skipped done, ?_⟩
  · rw [starts, front, begins]
  · rw [stops, sum, ends]
  · refine patch_changed read decoded ?_
    rw [done]
    rfl
  · rw [piece, front, starts]
    exact landedRegion_iff ordered inside

/-- A string alone in a file with a byte order mark. -/
def markedFile : FileTree :=
  ⟨"/work", "/home",
    [("/work", .folder [("a.psd1", .file ⟨#[0xef, 0xbb, 0xbf, 0x27, 0x61, 0x27]⟩)])]⟩

theorem read_markedFile :
    markedFile.read "a.psd1" = .ok ⟨#[0xef, 0xbb, 0xbf, 0x27, 0x61, 0x27]⟩ := by
  have wellFormed : markedFile.WellFormed :=
    FileTree.loneFile_wellFormed _ (by decide +kernel) (by decide +kernel) (by decide +kernel)
  have named : FileTree.IsFileName "a.psd1" := by
    refine ⟨⟨?_, ?_, ?_⟩, ?_, ?_, ?_⟩ <;> decide +kernel
  exact FileTree.read_loneFile wellFormed named

theorem patch_misses_marked_node : ∃ result node before region after outcome,
    parseFile markedFile "a.psd1" = .ok result ∧ result.issues = [] ∧
    node ∈ result.tree.walk true ∧ "\ufeff'a'".toList = before ++ region ++ after ∧
    patch markedFile "a.psd1" .utf8 [⟨"", node.extent, "", .warning, "", none,
      [⟨node.extent, "x", ""⟩]⟩] = .ok (outcome, outcome.text.toUTF8) ∧
    outcome.text = String.ofList (before ++ "x".toList ++ after) ∧
    unifyLineBreaks region ≠ node.extent.text.toList := by
  let extent : Extent := ⟨⟨1, 1⟩, ⟨1, 4⟩, "a.psd1", "'a'"⟩
  have decoded : Encoding.utf8.decode? ⟨#[0xef, 0xbb, 0xbf, 0x27, 0x61, 0x27]⟩ =
    some "\ufeff'a'" := by decide
  obtain ⟨result, parsed, clean, met⟩ : ∃ result,
      (parseText (String.ofList (parsedText "\ufeff'a'".toList)) "a.psd1").mapError Problem.fault =
          .ok result ∧
        result.issues = [] ∧ (result.tree.walk true).any (·.extent == extent) :=
    exists_parsed (by decide +kernel)
  rw [← parseFile_eq read_markedFile decoded] at parsed
  obtain ⟨node, member, placed⟩ := List.any_eq_true.mp met
  have placed := eq_of_beq placed
  have first : Diagnostic.preferredCorrection ⟨"", node.extent, "", .warning, "", none,
    [⟨node.extent, "x", ""⟩]⟩ = some ⟨node.extent, "x", ""⟩ := rfl
  obtain ⟨before, region, after, outcome, whole, begins, -, done, text, -, -, same⟩ :=
    patch_replaces_node read_markedFile decoded parsed clean member first rfl
  refine ⟨result, node, before, region, after, outcome, parsed, clean, member, whole, done, text,
    fun unmoved => ?_⟩
  have front : before.length = 0 := by
    have zero : (LineIndex.ofText "\ufeff'a'".toList).offset? ⟨1, 1⟩ = some 0 := by decide
    rw [placed, zero] at begins
    exact (Option.some.inj begins).symm
  have quote := same.mp unmoved rfl (by rw [placed]) '\'' (by rw [placed]; decide)
  rw [front] at quote
  exact absurd quote (by decide)

end ScriptAudit.Correction
