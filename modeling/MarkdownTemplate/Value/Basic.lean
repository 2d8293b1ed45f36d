import MarkdownTemplate.Number

/-!
# Values of a header

A header region is read into a `Value`, whatever its format: scalars, sequences, mappings with their
entries in document order and with keys of any kind, and values that carry a tag.
-/

namespace MarkdownTemplate

/-- A value read from a header region. -/
inductive Value where
  | null
  | bool (value : Bool)
  | number (value : Number)
  | string (value : String)
  | sequence (items : List Value)
  /-- A mapping: its entries in document order. -/
  | mapping (entries : List (Value × Value))
  /-- A value with a tag, given without the mark that introduces it. -/
  | tagged (tag : String) (value : Value)

namespace Value

/-- The value without its outer tags. -/
def untagged : Value → Value
  | tagged _ value => value.untagged
  | value => value

/-- What kind of value it is, in the words of messages. -/
def kind : Value → String
  | null => "null"
  | bool _ => "boolean"
  | number _ => "number"
  | string _ => "string"
  | sequence _ => "sequence"
  | mapping _ => "mapping"
  | tagged .. => "tagged value"

mutual

/-- Equality as keys of a mapping. Mappings are equal if they have the same entries in any order. -/
def same : Value → Value → Bool
  | null, null => true
  | bool b, bool c => b == c
  | number m, number n => m.same n
  | string s, string t => s == t
  | sequence xs, sequence ys => sameItems xs ys
  | mapping xs, mapping ys => xs.length == ys.length && sameEntries xs ys
  | tagged s x, tagged t y => s == t && x.same y
  | _, _ => false
termination_by structural left => left

/-- Equality of two lists of items, one by one. -/
def sameItems : List Value → List Value → Bool
  | [], [] => true
  | x :: xs, y :: ys => x.same y && sameItems xs ys
  | _, _ => false
termination_by structural left => left

/-- Whether each of the first entries is among the second ones. -/
def sameEntries : List (Value × Value) → List (Value × Value) → Bool
  | [], _ => true
  | (key, value) :: xs, ys =>
    ys.any (fun entry => key.same entry.1 && value.same entry.2) && sameEntries xs ys
termination_by structural left => left

end

/-- Whether a mapping with these entries has the key. -/
def hasKey (entries : List (Value × Value)) (key : Value) : Bool :=
  entries.any fun entry => key.same entry.1

end Value

end MarkdownTemplate
