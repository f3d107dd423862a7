import ScriptAudit.Proofs.Files.Tree
import ScriptAudit.Proofs.Literal.FirstTable
import ScriptAudit.Proofs.Literal.LineBreaks
import ScriptAudit.Proofs.Literal.RoundTrip
import ScriptAudit.Proofs.Settings.Resolve

namespace ScriptAudit.Settings

/-! Settings files that hold nothing but a table. -/

open Files Literal Syntax

variable {tree : FileTree} {path : String} {text : List Char} {entries : List (String × Value)}

theorem loadTable_rendered (unmarked : text.head? ≠ some orderMark)
    (rendered : Rendered (.table entries) (unifyLineBreaks text))
    (read : tree.read path = .ok (String.ofList text).toUTF8) :
    ∃ locations, loadTable tree path = .ok (entries, locations) := by
  obtain ⟨result, extent, statement, parsed, clean, same, denotes⟩ :=
    parseText_rendered rendered path
  obtain ⟨hashtable, first, range, pairs, rfl, evaluated⟩ := denotes.firstHashtable extent true
  have parsedFile : parseFile tree path = .ok result := by
    rw [parseFile_read read, dataFileText?_toUTF8 unmarked]
    dsimp only
    rw [parsed]
    rfl
  rw [← same] at first
  exact ⟨_, loadTable_of_parsed parsedFile clean first evaluated⟩

theorem resolveFile_rendered (unmarked : text.head? ≠ some orderMark)
    (rendered : Rendered (.table entries) (unifyLineBreaks text))
    (read : tree.read path = .ok (String.ofList text).toUTF8) (mode : Mode) :
    ∃ locations, resolveFile tree mode path =
      (build mode (some path) locations (Value.table entries).pairs).mapError (.inFile path) := by
  obtain ⟨locations, loaded⟩ := loadTable_rendered unmarked rendered read
  refine ⟨locations, ?_⟩
  rw [resolveFile, loaded]
  rfl

theorem read_pathInFull {content : ByteArray} (wellFormed : tree.WellFormed)
    (short : (tidy (absolute tree.current path)).utf8ByteSize ≤ greatestPath)
    (read : tree.read path = .ok content) :
    tree.read (pathInFull tree path) = .ok content := by
  unfold pathInFull
  split
  · exact tree.read_absolute wellFormed short read
  · exact read

/-- A text or a path that names this path. -/
def Names (path : String) (given : Value) : Prop :=
  given = .text path ∨ given = .path path

theorem originOf_plain {given : Value} (names : Names path given) (plain : IsPlainPath path)
    (workingFolder : String) : originOf tree given workingFolder = .ok (.file path) := by
  have text : originOfText tree workingFolder path = .ok (.file path) := by
    rw [originOfText, if_neg plain.worded, plain.unnamed]
  rcases names with rfl | rfl <;> exact text

theorem resolve_plain {given : Value} (wellFormed : tree.WellFormed) (plain : IsPlainPath path)
    (names : Names path given)
    (short : (tidy (absolute tree.current path)).utf8ByteSize ≤ greatestPath)
    (unmarked : text.head? ≠ some orderMark)
    (rendered : Rendered (.table entries) (unifyLineBreaks text))
    (read : tree.read path = .ok (String.ofList text).toUTF8) (workingFolder : String) :
    ∃ found locations, resolve tree given workingFolder = Except.mapError (.inFile found)
      (build .file (some found) locations (Value.table entries).pairs) := by
  obtain ⟨locations, same⟩ := resolveFile_rendered unmarked rendered
    (read_pathInFull wellFormed short read) .file
  refine ⟨pathInFull tree path, locations, ?_⟩
  have chosen : Chosen tree given workingFolder .file (pathInFull tree path) :=
    .file (originOf_plain names plain workingFolder) (resolvePath_eq plain)
  rw [resolve_chosen chosen, same]

end ScriptAudit.Settings
