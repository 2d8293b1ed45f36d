import MarkdownTemplate.Directory
import MarkdownTemplate.Template

/-!
# Loading templates

`Template.load` compiles the document that a path leads to and labels it with the stem of the file's
name.
-/

namespace MarkdownTemplate

namespace Template

/-- Reads and compiles the document at a path. -/
def load (options : Options) (directory : Directory) (path : String) : Except Error Template := do
  let unreadable := ⟨⟨"failed to read template", [(some "path", path)]⟩, []⟩
  let read := (directory.read path).mapError fun error => Error.ofMessage error.message
  let raw ← Error.chainResult read unreadable
  return compile options (some (pathStem path)) raw

/-- Loads documents one by one. -/
def loadAll (options : Options) (directory : Directory) (paths : List String) :
    List (Except Error Template) :=
  paths.map (load options directory)

end Template

end MarkdownTemplate
