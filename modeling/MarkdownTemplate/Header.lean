import Std.Data.ExtTreeMap
import MarkdownTemplate.Error
import MarkdownTemplate.FrontMatter
import MarkdownTemplate.Toml.Document
import MarkdownTemplate.Value.Text
import MarkdownTemplate.Yaml.Reader

/-!
# Headers

A header declares the variables of a template: each name with a description and a mark that says
whether a value may be missing. `Header.ofValue` takes the declarations from a value, `Header.parse`
from a header region.
-/

namespace MarkdownTemplate

/-- The declaration of a variable. -/
structure Entry where
  /-- The description, as text. -/
  value : String
  /-- Whether a value may be missing. -/
  isOptional : Bool
deriving DecidableEq

/-- The declared variables by name. Headers are equal if they declare the same. -/
structure Header where
  /-- The declarations by name, in the order of the names. -/
  entries : Std.ExtTreeMap String Entry := ∅

namespace Header

/-- The header that declares nothing. -/
def empty : Header := {}

/-- The declaration of a name. -/
def find? (header : Header) (name : String) : Option Entry :=
  header.entries[name]?

/-- Whether a name is declared. -/
def declares (header : Header) (name : String) : Bool :=
  (header.find? name).isSome

/-- The declarations with their names, sorted by name. -/
def toList (header : Header) : List (String × Entry) :=
  header.entries.toList

/-- Declares a name, in place of an earlier declaration. -/
def insert (header : Header) (name : String) (entry : Entry) : Header :=
  ⟨header.entries.insert name entry⟩

/-- Declares a name unless it is declared. -/
def insertIfNew (header : Header) (name : String) (entry : Entry) : Header :=
  ⟨header.entries.insertIfNew name entry⟩

/-- Headers that declare the same are equal. -/
theorem ext_find? {left right : Header} (h : ∀ name, left.find? name = right.find? name) :
    left = right := by
  cases left
  cases right
  congr 1
  exact Std.ExtTreeMap.ext_getElem? h

@[simp]
theorem find?_empty (name : String) : empty.find? name = none := by
  simp [empty, find?]

@[simp]
theorem find?_insert (header : Header) (name other : String) (entry : Entry) :
    (header.insert name entry).find? other =
      if name = other then some entry else header.find? other := by
  simp [insert, find?, Std.ExtTreeMap.getElem?_insert]

@[simp]
theorem find?_insertIfNew (header : Header) (name other : String) (entry : Entry) :
    (header.insertIfNew name entry).find? other =
      if name = other then some ((header.find? name).getD entry) else header.find? other := by
  simp only [insertIfNew, find?, Std.ExtTreeMap.getElem?_insertIfNew,
    Std.LawfulEqCmp.compare_eq_iff_eq]
  by_cases h : name = other
  · subst h
    by_cases hm : name ∈ header.entries
    · simp [hm]
    · simp [hm]
  · simp [h]

/-- The name that a key declares, and whether it declares it as optional: one question mark at the
end of the key does and is not part of the name. -/
def splitKey (key : String) : String × Bool :=
  if key.toList.getLast? = some '?' then (String.ofList key.toList.dropLast, true) else (key, false)

/-- Declares the name of a key with a description. -/
def declare (header : Header) (key description : String) : Header :=
  let (name, isOptional) := splitKey key
  header.insert name ⟨description, isOptional⟩

/-- Declares the entries of a mapping in their order. -/
def declareAll (header : Header) : List (Value × Value) → Header
  | [] => header
  | (key, value) :: entries => (header.declare key.toText value.toText).declareAll entries

/-- The header that a value declares, whatever its outer tags: the null value declares nothing and a
mapping its entries. -/
def ofValue (value : Value) : Except Error Header :=
  match value.untagged with
  | .null => .ok empty
  | .mapping entries => .ok (empty.declareAll entries)
  | other => .error ⟨⟨"header is not a mapping", [(some "found", other.kind)]⟩, []⟩

/-- The value of a header region in the given format, or what is wrong with it. -/
def readValue (format : Format) (text : String) : Except Error Value :=
  match format with
  | .yaml => (Yaml.read text).mapError fun error => Error.ofMessage error.message
  | .toml => (Toml.readValue text).mapError fun failure => Error.ofMessage (failure.report text)

/-- The header that a header region declares. -/
def parse (format : Format) (text : String) : Except Error Header := do
  let invalid := ⟨⟨"header is not valid", [(some "format", format.delimiter)]⟩, []⟩
  let value ← Error.chainResult (readValue format text) invalid
  ofValue value

end Header

end MarkdownTemplate
