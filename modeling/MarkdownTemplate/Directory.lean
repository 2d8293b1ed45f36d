import MarkdownTemplate.Text.Span

/-!
# Directories of files

A `Directory` holds files and directories by name. `Directory.read` follows a path from it, part by
part, and gives the text of the file that the path leads to, or why there is none.
-/

namespace MarkdownTemplate

/-- Why a path gives no text. -/
inductive ReadError where
  /-- Nothing has the name of some part of the path. -/
  | notFound
  /-- A file is followed as if it were a directory. -/
  | notADirectory
  /-- The path leads to a directory. -/
  | isADirectory
  /-- The path or a part of it is too long. -/
  | nameTooLong
  /-- The path holds a null character. -/
  | nullCharacter
  /-- The file is no text in UTF-8. -/
  | invalidText
deriving DecidableEq

/-- The wording of an error. -/
def ReadError.message : ReadError → String
  | notFound => "No such file or directory (os error 2)"
  | notADirectory => "Not a directory (os error 20)"
  | isADirectory => "Is a directory (os error 21)"
  | nameTooLong => "File name too long (os error 36)"
  | nullCharacter => "file name contained an unexpected NUL byte"
  | invalidText => "stream did not contain valid UTF-8"

/-- What a name in a directory stands for. -/
inductive DirectoryEntry where
  /-- A file with its bytes. -/
  | file (bytes : List UInt8)
  /-- A directory with its entries by name. -/
  | directory (entries : List (String × DirectoryEntry))

/-- The entries of a directory by name. -/
abbrev Directory := List (String × DirectoryEntry)

/-- The parts of a path between its slashes. -/
def pathParts (path : String) : List String :=
  (go path.toList).map String.ofList
where
  /-- The parts of what is left of a path; there is always at least one. -/
  go : List Char → List (List Char)
    | [] => [[]]
    | '/' :: chars => [] :: go chars
    | c :: chars =>
      match go chars with
      | [] => [[c]]
      | part :: parts => (c :: part) :: parts

namespace Directory

/-- What a name stands for. -/
def find? (directory : Directory) (name : String) : Option DirectoryEntry :=
  List.lookup name directory

/-- Replaces what a name stands for, or adds it. -/
def insert (name : String) (entry : DirectoryEntry) : Directory → Directory
  | [] => [(name, entry)]
  | (other, old) :: entries =>
    if other = name then (name, entry) :: entries else (other, old) :: insert name entry entries

/-- Puts an entry at a path, with the directories on the way to it. -/
def insertAt (entry : DirectoryEntry) : List String → Directory → Directory
  | [], directory => directory
  | [name], directory =>
    match entry, directory.find? name with
    | .directory [], some (.directory _) => directory
    | _, _ => insert name entry directory
  | name :: path, directory =>
    let inner :=
      match directory.find? name with
      | some (.directory entries) => entries
      | _ => []
    insert name (.directory (insertAt entry path inner)) directory

/-- How many bytes the name of a file may have. -/
def longestName : Nat := 255

/-- How many bytes a path may have. -/
def longestPath : Nat := 4095

/-- Follows the parts of a path. `above` are the directories that lead to the one where the path
goes on, innermost first; above all of them lies one with nothing else in it. -/
def follow (above : List Directory) (directory : Directory) :
    List String → Except ReadError DirectoryEntry
  | [] => .ok (.directory directory)
  | part :: path =>
    if part = "" ∨ part = "." then follow above directory path
    else if part = ".." then
      match above with
      | [] => follow [] [] path
      | parent :: above => follow above parent path
    else if part.utf8ByteSize > longestName then .error .nameTooLong
    else
      match directory.find? part with
      | none => .error .notFound
      | some (.directory entries) => follow (directory :: above) entries path
      | some (.file bytes) => if path.isEmpty then .ok (.file bytes) else .error .notADirectory

/-- The text of the file that a path leads to from a directory. -/
def read (directory : Directory) (path : String) : Except ReadError String := do
  if path.toList.contains '\x00' then throw .nullCharacter
  if path = "" then throw .notFound
  if path.utf8ByteSize > longestPath then throw .nameTooLong
  match ← follow [] directory (pathParts path) with
  | .directory _ => throw .isADirectory
  | .file bytes =>
    match String.fromUTF8? ⟨bytes.toArray⟩ with
    | some text => return text
    | none => throw .invalidText

end Directory

/-- The name of a file without its extension: all before the last dot, unless that is the first
character. -/
def nameStem (name : String) : String :=
  let chars := name.toList.reverse
  let afterDot := chars.dropWhile (· != '.')
  match afterDot with
  | [] => name
  | [_] => name
  | _ :: stem => String.ofList stem.reverse

/-- The stem of the file that a path names; a path that names none stands for itself. -/
def pathStem (path : String) : String :=
  match ((pathParts path).filter fun part => part ≠ "" ∧ part ≠ ".").getLast? with
  | none => path
  | some name => if name = ".." then path else nameStem name

end MarkdownTemplate
