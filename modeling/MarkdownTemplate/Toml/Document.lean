import MarkdownTemplate.Toml.ItemText

/-!
# TOML documents

A document is a list of entries, each belonging to the table of the last header before it. A `Draft`
holds the tables while they are read: the entries of the current table are put into the others when
the next header or the end of the text is reached. `Toml.read` gives the entries of the whole
document.
-/

namespace MarkdownTemplate

namespace Toml

open Reading

/-- The tables of a document while they are read. -/
structure Draft where
  /-- The entries of the root, without the current table. -/
  root : Entries := []
  /-- The entries of the current table. -/
  current : Entries := []
  /-- The key of the current table; for the root it has no parts. -/
  path : List Key := []
  /-- Whether the current table is an element of an array. -/
  isElement : Bool := false
  /-- Where the current table stands. -/
  span : Span := ⟨0, 0⟩

/-- The table header that starts a table. -/
structure TableHeader where
  /-- The key of the table. -/
  path : List Key
  /-- Whether the table is an element of an array. -/
  isElement : Bool
  /-- Where the header stands. -/
  span : Span

namespace Draft

/-- Adds an entry to the current table. -/
def insert (draft : Draft) (path : List Key) (item : Item) : Except Cause Draft := do
  match path.getLast? with
  | none => return draft
  | some key =>
    let table := draft.path.map Key.name
    let current ← insertEntry .key (some table) draft.current path.dropLast key item
    let stop := (item.span?.map Span.stop).getD draft.span.stop
    return { draft with current, span := ⟨draft.span.start, stop⟩ }

/-- The cause when a header's key is taken. -/
def taken (path : List Key) (key : Key) : Cause :=
  .duplicateKey key.text (some (path.dropLast.map Key.name))

/-- Puts the current table into the root. -/
def finish (draft : Draft) : Except Cause Entries :=
  match draft.path.getLast? with
  | none => .ok draft.current
  | some key =>
    let table := Item.table .headed draft.current (some draft.span)
    let put (_ : TableForm) (entries : Entries) : Except Cause Entries :=
      match findItem? key.name entries with
      | none =>
        -- a new table, or the first one of an array of tables
        .ok (entries ++ [(key, if draft.isElement then .tables [table] else table)])
      | some (.tables elements) =>
        if draft.isElement then
          .ok (replaceItem key.name (.tables (elements ++ [table])) entries)
        else .error (taken draft.path key)
      | some _ => .error (taken draft.path key)
    extendTable .header put [] .headed draft.root draft.path.dropLast

/-- Starts the table of a header. A table that is there only because a header leads through it
becomes the current table with its entries. -/
def start (draft : Draft) (header : TableHeader) : Except Cause Draft := do
  let root ← draft.finish
  match header.path.getLast? with
  | none => return draft
  | some key =>
    let started : Draft := ⟨root, [], header.path, header.isElement, header.span⟩
    if header.isElement then
      let put (_ : TableForm) (entries : Entries) : Except Cause Entries :=
        match findItem? key.name entries with
        | none => .ok (entries ++ [(key, .tables [])])
        | some (.tables _) => .ok entries
        | some _ => .error (taken header.path key)
      let root ← extendTable .header put [] .headed root header.path.dropLast
      return { started with root }
    else
      let remove (_ : TableForm) (entries : Entries) : Except Cause Entries :=
        match findItem? key.name entries with
        | none => .ok entries
        -- the header of this table comes after one that leads through it
        | some (.table .onPath _ _) =>
          .ok (entries.filter fun entry => entry.1.name != key.name)
        | some _ => .error (taken header.path key)
      let current := (findTable? root header.path).getD []
      let root ← extendTable .header remove [] .headed root header.path.dropLast
      return { started with root, current }
where
  /-- The entries of the table that a key leads to. -/
  findTable? (entries : Entries) : List Key → Option Entries
    | [] => some entries
    | key :: path =>
      match findItem? key.name entries with
      | some (.table _ entries _) => findTable? entries path
      | some (.tables elements) =>
        match elements.getLast? with
        | some (.table _ entries _) => findTable? entries path
        | _ => none
      | _ => none

end Draft

/-- Reads a table header. -/
def tableHeader : Reading TableHeader := do
  let header (opening closing : List Char) (isElement : Bool) : Reading TableHeader := do
    let (path, span) ← spanned do
      word opening
      let path ← settle dottedKey
      expecting [.spelled ".", .spelled (String.ofList closing)] (settle (word closing))
      return path
    settle restOfLine
    return ⟨path, isElement, span⟩
  match (← get).rest with
  | '[' :: '[' :: _ => header ['[', '['] [']', ']'] true
  | '[' :: _ :: _ => header ['['] [']'] false
  | _ => fail

/-- Reads an entry with the rest of its line. -/
def entry : Reading (List Key × Item) := do
  let path ← dottedKey
  settle do
    equalsSign
    blanks
    let item ← item depthLimit
    restOfLine
    return (path, item)

/-- The cause of a failure, if there is one. -/
def withCause {α : Type} (result : Except Cause α) : Except (Option Cause) α :=
  result.mapError some

/-- Reads the lines of a document from a place on where a line may start, at most `count` of them.
-/
def lines (draft : Draft) : Nat → Reading Draft
  | 0 => return draft
  | count + 1 => do
    match ← next? with
    | none => return draft
    | some '#' =>
      settle do
        comment
        lineEnd
      blanks
      lines draft count
    | some '[' =>
      let draft ← settle <| named .tableHeader <|
        converted true tableHeader fun header => withCause (draft.start header)
      blanks
      lines draft count
    | some '\n' | some '\r' =>
      -- a carriage return without a line feed is no line break, and no line starts with it
      match ← optional newline with
      | none => return draft
      | some () =>
        blanks
        lines draft count
    | some _ =>
      let draft ← settle <|
        converted true entry fun (path, item) => withCause (draft.insert path item)
      blanks
      lines draft count

/-- Reads a whole document. -/
def document : Reading Draft := do
  let _ ← optional (char '\ufeff')
  blanks
  let draft ← lines {} (← fuel)
  atEnd
  return draft

/-- The entries of the document that `text` holds. -/
def read (text : String) : Except Failure Entries := do
  let (draft, _) ← document ⟨text.toList, 0⟩
  match draft.finish with
  | .ok entries => return entries
  -- the text is over, so what is wrong with its last table is reported at its start
  | .error cause => throw { offset := 0, cause }

/-- The value of the document that `text` holds. -/
def readValue (text : String) : Except Failure Value := do
  return .mapping (Item.entryValues (← read text))

end Toml

end MarkdownTemplate
