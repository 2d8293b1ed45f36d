import MarkdownTemplate.Text.Span

/-!
# Markers

A marker is `#{name}`, `#{?name}` or `#{/name}`, where a question mark may follow the name and the
name may be empty. `Marker.read?` reads one at the front of a text, `Piece.ofChars` cuts a text into
its markers and the text between them, and `markers` lists the markers with their places.
-/

namespace MarkdownTemplate

/-- What a marker does. -/
inductive MarkerKind where
  /-- It stands for the value of a variable. -/
  | placeholder
  /-- It opens a block. -/
  | opening
  /-- It closes a block. -/
  | closing
deriving DecidableEq

/-- The characters of a marker before its name. -/
def MarkerKind.lead : MarkerKind → List Char
  | placeholder => ['#', '{']
  | opening => ['#', '{', '?']
  | closing => ['#', '{', '/']

/-- Whether `c` may stand in the name of a marker. -/
def isNameChar (c : Char) : Bool :=
  c.isAlphanum || c == '_' || c == '.' || c == '-'

/-- A marker of a body. -/
structure Marker where
  /-- What the marker does. -/
  kind : MarkerKind
  /-- The name, which may be empty. -/
  name : String
  /-- Whether a question mark follows the name. -/
  isQuestion : Bool
deriving DecidableEq

namespace Marker

/-- The characters of the marker. -/
def chars (marker : Marker) : List Char :=
  marker.kind.lead ++ marker.name.toList ++ (if marker.isQuestion then ['?'] else []) ++ ['}']

/-- The marker as it is written. -/
def text (marker : Marker) : String :=
  String.ofList marker.chars

/-- How many bytes the marker takes. -/
def size (marker : Marker) : Nat :=
  byteLength marker.chars

/-- Reads the kind of a marker after its opening brace. -/
def readKind : List Char → MarkerKind × List Char
  | '?' :: rest => (.opening, rest)
  | '/' :: rest => (.closing, rest)
  | rest => (.placeholder, rest)

/-- Reads the question mark after a name, if there is one. -/
def readQuestion : List Char → Bool × List Char
  | '?' :: rest => (true, rest)
  | rest => (false, rest)

/-- Reads a marker at the front of a text. The result is the marker and the text after it. -/
def read? : List Char → Option (Marker × List Char)
  | '#' :: '{' :: inside =>
    let (kind, afterKind) := readKind inside
    let (isQuestion, afterQuestion) := readQuestion (afterKind.dropWhile isNameChar)
    match afterQuestion with
    | '}' :: rest =>
      some (⟨kind, String.ofList (afterKind.takeWhile isNameChar), isQuestion⟩, rest)
    | _ => none
  | _ => none

/-- The kind of a marker is spelled by what is read for it. -/
theorem lead_readKind (chars : List Char) :
    (readKind chars).1.lead ++ (readKind chars).2 = '#' :: '{' :: chars := by
  unfold readKind
  split <;> rfl

/-- The question mark is spelled by what is read for it. -/
theorem append_readQuestion (chars : List Char) :
    (if (readQuestion chars).1 then ['?'] else []) ++ (readQuestion chars).2 = chars := by
  unfold readQuestion
  split <;> rfl

/-- What is read is the marker as it is written, and the rest. -/
theorem chars_append_of_read? {chars rest : List Char} {marker : Marker}
    (h : read? chars = some (marker, rest)) : marker.chars ++ rest = chars := by
  unfold read? at h
  split at h
  · rename_i inside
    dsimp only at h
    split at h
    · rename_i after heq
      obtain ⟨rfl, rfl⟩ := Prod.mk.inj (Option.some.inj h)
      have hquestion := append_readQuestion ((readKind inside).2.dropWhile isNameChar)
      rw [heq] at hquestion
      have hkind := lead_readKind inside
      have hname := List.takeWhile_append_dropWhile (p := isNameChar) (l := (readKind inside).2)
      simp only [Marker.chars, String.toList_ofList, List.append_assoc, List.singleton_append]
      rw [hquestion, hname, hkind]
    · exact absurd h (by simp)
  · exact absurd h (by simp)

/-- Reading a marker leaves less to read. -/
theorem length_lt_of_read? {chars rest : List Char} {marker : Marker}
    (h : read? chars = some (marker, rest)) : rest.length < chars.length := by
  have hchars := congrArg List.length (chars_append_of_read? h)
  simp only [List.length_append, Marker.chars, List.length_singleton] at hchars
  omega

end Marker

/-- A part of a body. -/
inductive Piece where
  /-- Text without markers. -/
  | text (chars : List Char)
  /-- A marker. -/
  | marker (found : Marker)
deriving DecidableEq

namespace Piece

/-- The characters of the piece. -/
def chars : Piece → List Char
  | text chars => chars
  | marker found => found.chars

/-- Puts a character that belongs to no marker before pieces. -/
def cons (c : Char) : List Piece → List Piece
  | text chars :: pieces => text (c :: chars) :: pieces
  | pieces => text [c] :: pieces

@[simp]
theorem flatMap_chars_cons (c : Char) (pieces : List Piece) :
    (cons c pieces).flatMap chars = c :: pieces.flatMap chars := by
  unfold cons
  split <;> simp [chars]

/-- Cuts a text into its markers and the text between them. -/
def ofChars (chars : List Char) : List Piece :=
  match chars with
  | [] => []
  | c :: rest =>
    match _h : Marker.read? (c :: rest) with
    | some (found, after) => marker found :: ofChars after
    | none => cons c (ofChars rest)
termination_by chars.length
decreasing_by
  · exact Marker.length_lt_of_read? _h
  · simp

/-- Cutting a text into pieces loses nothing. -/
theorem flatMap_chars_ofChars (chars : List Char) :
    (ofChars chars).flatMap Piece.chars = chars := by
  fun_induction ofChars chars with
  | case1 => rfl
  | case2 c rest found after h ih =>
    simp [Piece.chars, ih, Marker.chars_append_of_read? h]
  | case3 c rest h ih => simp [ih]

end Piece

/-- Whether the two characters that start every marker occur in a text. -/
def mayContainMarkers : List Char → Bool
  | '#' :: '{' :: _ => true
  | _ :: chars => mayContainMarkers chars
  | [] => false

/-- The markers among pieces, of which the first starts at `offset`, with their places. -/
def Piece.markersFrom (offset : Nat) : List Piece → List (Marker × Span)
  | [] => []
  | text chars :: pieces => markersFrom (offset + byteLength chars) pieces
  | marker found :: pieces =>
    (found, ⟨offset, offset + found.size⟩) :: markersFrom (offset + found.size) pieces

/-- The markers of a body with their places, in order. -/
def markers (body : String) : List (Marker × Span) :=
  Piece.markersFrom 0 (Piece.ofChars body.toList)

end MarkdownTemplate
