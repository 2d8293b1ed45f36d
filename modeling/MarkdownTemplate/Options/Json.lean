import MarkdownTemplate.Json.Reader
import MarkdownTemplate.Options.Problem

/-!
# Options from JSON

`Options.ofJson` reads options from a JSON text: an object with the options as members, of which
those of other names are passed over, or an array with the options in their order. A recovery order
is a name, or an object whose only member has the name and the null value.
-/

namespace MarkdownTemplate

namespace Options

/-- Why a JSON text holds no options. -/
inductive JsonError where
  /-- The text is not well formed. -/
  | malformed (failure : Json.Failure)
  /-- The text holds something else. -/
  | unsuitable (problem : Problem) (position : Json.Position)

/-- The wording of an error. -/
def JsonError.message : JsonError → String
  | malformed failure => failure.message
  | unsuitable problem position => problem.message ++ " at " ++ position.display

open Json

/-- The result of a step that knows nothing of options. -/
def wellFormed {α : Type} (result : Except Failure α) : Except JsonError α :=
  result.mapError .malformed

/-- A number in messages. -/
def foundNumber : Number → Found
  | .integer value => .integer value
  | value => .float (value.jsonText?.getD "")

/-- Fails because the value at the cursor is not what is expected. Scalars are read first and may
fail themselves. -/
def failUnexpected {α : Type} (expected : Expected) (cursor : Cursor) : Except JsonError α := do
  let fail (found : Found) (position : Position) : Except JsonError α :=
    .error (.unsuitable (.unexpected found expected) position)
  match cursor.rest with
  | '[' :: _ => fail .sequence cursor.position
  | '{' :: _ => fail .mapping cursor.position
  | 'n' :: _ =>
    let after ← wellFormed (cursor.skip.literal ['u', 'l', 'l'])
    fail .null after.position
  | 't' :: _ =>
    let after ← wellFormed (cursor.skip.literal ['r', 'u', 'e'])
    fail (.bool true) after.position
  | 'f' :: _ =>
    let after ← wellFormed (cursor.skip.literal ['a', 'l', 's', 'e'])
    fail (.bool false) after.position
  | '"' :: _ =>
    let (value, after) ← wellFormed (readString cursor.skip)
    fail (.string value) after.position
  | '-' :: _ =>
    let (value, after) ← wellFormed (readNumber true cursor.skip)
    fail (foundNumber value) after.position
  | c :: _ =>
    if isDigit c then
      let (value, after) ← wellFormed (readNumber false cursor)
      fail (foundNumber value) after.position
    else wellFormed (cursor.failAtNext .expectedValue)
  | [] => wellFormed (cursor.failAtNext .endInValue)

/-- Reads a truth value. -/
def readBool (cursor : Cursor) : Except JsonError (Bool × Cursor) := do
  let cursor := cursor.skipBlank
  match cursor.rest with
  | 't' :: _ => return (true, ← wellFormed (cursor.skip.literal ['r', 'u', 'e']))
  | 'f' :: _ => return (false, ← wellFormed (cursor.skip.literal ['a', 'l', 's', 'e']))
  | _ => failUnexpected .bool cursor

/-- Reads the null value. -/
def readNull (cursor : Cursor) : Except JsonError Cursor := do
  let cursor := cursor.skipBlank
  match cursor.rest with
  | 'n' :: _ => wellFormed (cursor.skip.literal ['u', 'l', 'l'])
  | _ => failUnexpected .null cursor

/-- Reads the name of a recovery order. -/
def readRecoveryName (cursor : Cursor) : Except JsonError (Recovery × Cursor) := do
  let cursor := cursor.skipBlank
  match cursor.rest with
  | '"' :: _ =>
    let (name, after) ← wellFormed (readString cursor.skip)
    match Recovery.ofName? name with
    | some recovery => return (recovery, after)
    | none => .error (.unsuitable (.unknownRecovery name) after.position)
  | _ => failUnexpected .name cursor

/-- Reads the colon after the name of a member. -/
def readColon (cursor : Cursor) : Except JsonError Cursor :=
  let cursor := cursor.skipBlank
  match cursor.rest with
  | ':' :: _ => .ok cursor.skip
  | [] => wellFormed (cursor.failAtNext .endInObject)
  | _ => wellFormed (cursor.failAtNext .expectedColon)

/-- Reads a recovery order. -/
def readRecovery (cursor : Cursor) : Except JsonError (Recovery × Cursor) := do
  let cursor := cursor.skipBlank
  match cursor.rest with
  | [] => wellFormed (cursor.failAtNext .endInValue)
  | '"' :: _ => readRecoveryName cursor
  | '{' :: _ =>
    let (recovery, cursor) ← readRecoveryName cursor.skip
    let cursor ← readColon cursor
    let cursor ← readNull cursor
    let cursor := cursor.skipBlank
    match cursor.rest with
    | '}' :: _ => return (recovery, cursor.skip)
    | [] => wellFormed (cursor.fail .endInObject)
    | _ => wellFormed (cursor.fail .expectedValue)
  | _ => wellFormed (cursor.failAtNext .expectedValue)

/-- Passes over an exponent after its letter. -/
def skipExponent (cursor : Cursor) : Except Failure Cursor :=
  let cursor :=
    match cursor.rest with
    | '+' :: _ => cursor.skip
    | '-' :: _ => cursor.skip
    | _ => cursor
  match cursor.rest with
  | c :: _ => if isDigit c then .ok (cursor.skipWhile isDigit) else cursor.failAtNext .invalidNumber
  | [] => cursor.fail .invalidNumber

/-- Passes over what may follow the digits of a number. -/
def skipNumberEnd (cursor : Cursor) : Except Failure Cursor :=
  match cursor.rest with
  | '.' :: rest =>
    if rest.head?.any isDigit then
      let cursor := cursor.skip.skipWhile isDigit
      match cursor.rest with
      | 'e' :: _ => skipExponent cursor.skip
      | 'E' :: _ => skipExponent cursor.skip
      | _ => .ok cursor
    else cursor.skip.failAtNext .invalidNumber
  | 'e' :: _ => skipExponent cursor.skip
  | 'E' :: _ => skipExponent cursor.skip
  | _ => .ok cursor

/-- Passes over a number after its sign, whatever its size. -/
def skipNumber (cursor : Cursor) : Except Failure Cursor :=
  match cursor.rest with
  | '0' :: rest =>
    if rest.head?.any isDigit then cursor.skip.failAtNext .invalidNumber
    else skipNumberEnd cursor.skip
  | c :: _ =>
    if isDigit c then skipNumberEnd (cursor.skipWhile isDigit) else cursor.failAtNext .invalidNumber
  | [] => cursor.fail .invalidNumber

/-- A collection that is passed over. -/
inductive Collection where
  /-- An array. -/
  | array
  /-- An object. -/
  | object
deriving DecidableEq

/-- The character that ends a collection. -/
def Collection.close : Collection → Char
  | array => ']'
  | object => '}'

/-- Passes over the name of a member and its colon, if the innermost collection is an object. -/
def skipName (collection : Collection) (cursor : Cursor) : Except Failure Cursor :=
  match collection with
  | .array => .ok cursor
  | .object => do
    let cursor := cursor.skipBlank
    match cursor.rest with
    | '"' :: _ =>
      let (_, cursor) ← stringBody false 0 [] cursor.skip.position cursor.skip.rest
      let cursor := cursor.skipBlank
      match cursor.rest with
      | ':' :: _ => return cursor.skip
      | [] => cursor.failAtNext .endInObject
      | _ => cursor.failAtNext .expectedColon
    | [] => cursor.failAtNext .endInObject
    | _ => cursor.failAtNext .nameNotString

/-- Passes over a value that is no collection. -/
def skipScalar (cursor : Cursor) : Except Failure Cursor :=
  match cursor.rest with
  | 'n' :: _ => cursor.skip.literal ['u', 'l', 'l']
  | 't' :: _ => cursor.skip.literal ['r', 'u', 'e']
  | 'f' :: _ => cursor.skip.literal ['a', 'l', 's', 'e']
  | '-' :: _ => skipNumber cursor.skip
  | '"' :: _ => do
    let (_, cursor) ← stringBody false 0 [] cursor.skip.position cursor.skip.rest
    return cursor
  | c :: _ => if isDigit c then skipNumber cursor else cursor.failAtNext .expectedValue
  | [] => cursor.failAtNext .endInValue

/-- Passes over the rest of a value that is inside the given collections, innermost first. `hasItem`
says that an item or member is passed, so that a comma may follow; each step takes one unit of
`fuel`. -/
def skipRest (fuel : Nat) (hasItem : Bool) (collections : List Collection) (cursor : Cursor) :
    Except Failure Cursor :=
  match fuel, collections with
  | 0, _ => .ok cursor
  | _, [] => .ok cursor
  | fuel + 1, collection :: outer => do
    let cursor := cursor.skipBlank
    let isArray := collection == .array
    match cursor.rest with
    | [] => cursor.failAtNext (if isArray then .endInArray else .endInObject)
    | c :: _ =>
      if c == collection.close then skipRest fuel true outer cursor.skip
      else if hasItem && c != ',' then
        cursor.failAtNext (if isArray then .expectedItemEnd else .expectedMemberEnd)
      else
        let cursor ← skipName collection (if hasItem then cursor.skip else cursor)
        let cursor := cursor.skipBlank
        match cursor.rest with
        | '[' :: _ => skipRest fuel false (.array :: collections) cursor.skip
        | '{' :: _ => skipRest fuel false (.object :: collections) cursor.skip
        | _ => skipRest fuel true collections (← skipScalar cursor)

/-- Passes over a value. -/
def skipValue (cursor : Cursor) : Except Failure Cursor :=
  let cursor := cursor.skipBlank
  let fuel := 2 * cursor.rest.length + 2
  match cursor.rest with
  | '[' :: _ => skipRest fuel false [.array] cursor.skip
  | '{' :: _ => skipRest fuel false [.object] cursor.skip
  | _ => skipScalar cursor

/-- Options while the members of an object are read. -/
structure Members where
  /-- The recovery order, if it is given. -/
  recovery : Option Recovery := none
  /-- Whether TOML headers are recognised, if that is given. -/
  tomlHeaders : Option Bool := none

/-- The options, with defaults for those that are not given. -/
def Members.toOptions (members : Members) : Options :=
  let default : Options := {}
  ⟨members.recovery.getD default.recovery, members.tomlHeaders.getD default.tomlHeaders⟩

/-- Fails because an option is given twice. The place is behind the name and blank text, and also
behind the end of the object if that follows. -/
def failRepeated {α : Type} (option : String) (cursor : Cursor) : Except JsonError α :=
  let cursor := cursor.skipBlank
  let after := if cursor.rest.head? == some '}' then cursor.skip else cursor
  .error (.unsuitable (.repeated option) after.position)

/-- Reads the member of a name, which is read already. -/
def readMember (members : Members) (name : String) (cursor : Cursor) :
    Except JsonError (Members × Cursor) := do
  if name = "recovery" then
    if members.recovery.isSome then failRepeated name cursor
    else
      let (recovery, cursor) ← readRecovery (← readColon cursor)
      return ({ members with recovery := some recovery }, cursor)
  else if name = "toml_headers" then
    if members.tomlHeaders.isSome then failRepeated name cursor
    else
      let (tomlHeaders, cursor) ← readBool (← readColon cursor)
      return ({ members with tomlHeaders := some tomlHeaders }, cursor)
  else return (members, ← wellFormed (skipValue (← readColon cursor)))

/-- Reads the members of an object after its opening brace; each takes one unit of `fuel`. -/
def readMembers (fuel : Nat) (members : Members) (cursor : Cursor) :
    Except JsonError (Members × Cursor) :=
  go fuel true members cursor
where
  /-- Reads the members that are left; `first` says that none is read yet. -/
  go (fuel : Nat) (first : Bool) (members : Members) (cursor : Cursor) :
      Except JsonError (Members × Cursor) :=
    match fuel with
    | 0 => .ok (members, cursor)
    | fuel + 1 => do
      match ← wellFormed (nextName? first cursor) with
      | (none, cursor) => return (members, cursor)
      | (some name, cursor) =>
        let (members, cursor) ← readMember members name cursor
        go fuel false members cursor

/-- Finds whether an array has another item, at which the cursor then is. -/
def nextItem? (first : Bool) (cursor : Cursor) : Except Failure (Option Cursor) :=
  let cursor := cursor.skipBlank
  match cursor.rest with
  | [] => cursor.failAtNext .endInArray
  | ']' :: _ => .ok none
  | c :: _ =>
    if first then .ok (some cursor)
    else if c == ',' then
      let cursor := cursor.skip.skipBlank
      match cursor.rest with
      | [] => cursor.failAtNext .endInValue
      | ']' :: _ => cursor.failAtNext .trailingComma
      | _ => .ok (some cursor)
    else cursor.failAtNext .expectedItemEnd

/-- Reads the end of an array that has no more options. -/
def readArrayEnd (cursor : Cursor) : Except Failure Cursor :=
  let cursor := cursor.skipBlank
  match cursor.rest with
  | ']' :: _ => .ok cursor.skip
  | ',' :: _ =>
    let cursor := cursor.skip.skipBlank
    if cursor.rest.head? == some ']' then cursor.failAtNext .trailingComma
    else cursor.failAtNext .trailingCharacters
  | [] => cursor.failAtNext .endInArray
  | _ => cursor.failAtNext .trailingCharacters

/-- Reads options as the items of an array after its opening bracket. -/
def readItems (cursor : Cursor) : Except JsonError (Members × Cursor) := do
  match ← wellFormed (nextItem? true cursor) with
  | none => return ({}, ← wellFormed (readArrayEnd cursor))
  | some cursor =>
    let (recovery, cursor) ← readRecovery cursor
    match ← wellFormed (nextItem? false cursor) with
    | none => return ({ recovery := some recovery }, ← wellFormed (readArrayEnd cursor))
    | some cursor =>
      let (tomlHeaders, cursor) ← readBool cursor
      return (⟨some recovery, some tomlHeaders⟩, ← wellFormed (readArrayEnd cursor))

/-- Reads options from a JSON text. Options that are not given have their defaults. -/
def ofJson (text : String) : Except JsonError Options := do
  let cursor := (Cursor.ofString text).skipBlank
  let (members, cursor) ←
    match cursor.rest with
    | '[' :: _ => readItems cursor.skip
    | '{' :: rest => readMembers (rest.length + 1) {} cursor.skip
    | _ => failUnexpected .options cursor
  wellFormed (expectEnd cursor)
  return members.toOptions

end Options

end MarkdownTemplate
