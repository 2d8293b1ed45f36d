import Std.Data.HashMap
import Std.Data.TreeMap
import MarkdownTemplate.Json.Value

/-!
# Sources of values

A template takes its values from any source that finds a text by a name. Lists of pairs, growable or
of a fixed size, give the first value of a name. JSON objects give strings as they are, null as no
value, and other values as their compact text. A source behind a reference is the same source.
-/

namespace MarkdownTemplate

/-- A source of values by name. -/
class ValueSource (α : Type) where
  /-- The value of a name, if there is one. -/
  value? : α → String → Option String

namespace ValueSource

/-- Whether a source has a value for a name. -/
def contains {α : Type} [ValueSource α] (source : α) (name : String) : Bool :=
  (value? source name).isSome

end ValueSource

instance : ValueSource (List (String × String)) where
  value? pairs name := (pairs.find? fun pair => pair.1 == name).map Prod.snd

instance : ValueSource (Array (String × String)) where
  value? pairs name := (pairs.find? fun pair => pair.1 == name).map Prod.snd

instance {size : Nat} : ValueSource (Vector (String × String) size) where
  value? pairs name := (pairs.find? fun pair => pair.1 == name).map Prod.snd

instance [hashing : Hashable String] : ValueSource (@Std.HashMap String String _ hashing) where
  value? map name := map[name]?

instance : ValueSource (Std.TreeMap String String) where
  value? map name := map[name]?

/-- The text of a JSON value in a template, unless it is null. -/
def Json.valueText? : Json → Option String
  | .null => none
  | .string text => some text
  | value => some value.compact

instance : ValueSource (Std.TreeMap String Json) where
  value? members name := members[name]?.bind Json.valueText?

/-- A reference to a source. -/
structure SourceReference (α : Type) where
  /-- The source that it refers to. -/
  source : α

instance {α : Type} [ValueSource α] : ValueSource (SourceReference α) where
  value? reference name := ValueSource.value? reference.source name

end MarkdownTemplate
