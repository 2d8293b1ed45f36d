import MarkdownTemplate.Decimal.Numeral
import MarkdownTemplate.Number

/-!
# JSON values and their compact text

A JSON object is the list of its members in the order of the text, repetitions included, so that
reading loses nothing. `Json.canonical` keeps the last of repeated members and sorts by name.
`Json.compact` writes a value without any space.
-/

namespace MarkdownTemplate

/-- A JSON value. -/
inductive Json where
  | null
  | bool (value : Bool)
  | number (value : Number)
  | string (value : String)
  | array (items : List Json)
  /-- An object: its members in order. -/
  | object (members : List (String × Json))
deriving Inhabited

namespace Json

/-- One character inside a JSON string. Only the quote, the backslash and the control characters
below the space are escaped. -/
def escapedChar (c : Char) : List Char :=
  match c with
  | '"' => ['\\', '"']
  | '\\' => ['\\', '\\']
  | '\n' => ['\\', 'n']
  | '\r' => ['\\', 'r']
  | '\t' => ['\\', 't']
  | '\x08' => ['\\', 'b']
  | '\x0c' => ['\\', 'f']
  | c => if c.toNat < 32 then ['\\', 'u'] ++ hexText 4 false c.toNat else [c]

/-- A string between quotes. -/
def stringText (text : String) : List Char :=
  '"' :: text.toList.flatMap escapedChar ++ ['"']

/-- The pieces with `separator` between them. -/
def joinWith (separator : Char) : List (List Char) → List Char
  | [] => []
  | [piece] => piece
  | piece :: pieces => piece ++ separator :: joinWith separator pieces

mutual

/-- The characters of the compact text of a value. -/
def compactChars : Json → List Char
  | null => ['n', 'u', 'l', 'l']
  | bool true => ['t', 'r', 'u', 'e']
  | bool false => ['f', 'a', 'l', 's', 'e']
  | number value => (value.jsonText?.getD "null").toList
  | string value => stringText value
  | array items => '[' :: joinWith ',' (itemTexts items) ++ [']']
  | object members => '{' :: joinWith ',' (memberTexts members) ++ ['}']
termination_by structural value => value

/-- The texts of the items of an array. -/
def itemTexts : List Json → List (List Char)
  | [] => []
  | item :: items => item.compactChars :: itemTexts items
termination_by structural items => items

/-- The texts of the members of an object. -/
def memberTexts : List (String × Json) → List (List Char)
  | [] => []
  | (name, value) :: members =>
    (stringText name ++ ':' :: value.compactChars) :: memberTexts members
termination_by structural members => members

end

/-- The compact text of a value: no spaces, and members in their own order. -/
def compact (value : Json) : String :=
  String.ofList value.compactChars

/-- Puts a member at its place in a sorted list of members, in place of one of that name. -/
def insertMember (name : String) (value : Json) : List (String × Json) → List (String × Json)
  | [] => [(name, value)]
  | member :: members =>
    if name < member.1 then (name, value) :: member :: members
    else if name == member.1 then (name, value) :: members
    else member :: insertMember name value members

/-- The members sorted by name; of repeated members the last stays. -/
def sortMembers (members : List (String × Json)) : List (String × Json) :=
  members.foldl (fun sorted member => insertMember member.1 member.2 sorted) []

mutual

/-- The value with the members of each object sorted by name and the last of repeated members kept.
-/
def canonical : Json → Json
  | array items => array (canonicalItems items)
  | object members => object (sortMembers (canonicalMembers members))
  | value => value
termination_by structural value => value

/-- The items of an array, each canonical. -/
def canonicalItems : List Json → List Json
  | [] => []
  | item :: items => item.canonical :: canonicalItems items
termination_by structural items => items

/-- The members of an object in their order, each with its value canonical. -/
def canonicalMembers : List (String × Json) → List (String × Json)
  | [] => []
  | (name, value) :: members => (name, value.canonical) :: canonicalMembers members
termination_by structural members => members

end

end Json

end MarkdownTemplate
