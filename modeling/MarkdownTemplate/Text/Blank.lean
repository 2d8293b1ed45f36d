/-!
# Blank characters, trimming and lines

A character is blank if Unicode gives it the property `White_Space`. Values are trimmed of blank
characters before they are tested for emptiness, and texts are cut into lines at line feeds. Header
regions know fewer blanks, `isSpaceOrTab`, and YAML knows more ends of lines, `isLineBreak`.
-/

namespace MarkdownTemplate

/-- The characters with the Unicode property `White_Space`. -/
def isBlank (c : Char) : Bool :=
  ('\t' ≤ c && c ≤ '\r') || c == ' ' || c == '\u0085' || c == '\u00a0' || c == '\u1680' ||
    ('\u2000' ≤ c && c ≤ '\u200a') || c == '\u2028' || c == '\u2029' || c == '\u202f' ||
    c == '\u205f' || c == '\u3000'

/-- Whether `c` is a space or a tab. -/
def isSpaceOrTab (c : Char) : Bool :=
  c == ' ' || c == '\t'

/-- Whether `c` breaks a line of YAML. -/
def isLineBreak (c : Char) : Bool :=
  c == '\n' || c == '\r' || c == '\u0085' || c == '\u2028' || c == '\u2029'

/-- Whether every character is blank. -/
def allBlank (text : String) : Bool :=
  text.toList.all isBlank

/-- The text without the blank characters at its end. -/
def trimEnd (text : String) : String :=
  String.ofList (text.toList.reverse.dropWhile isBlank).reverse

/-- The text without the blank characters at its two ends. -/
def trim (text : String) : String :=
  String.ofList ((text.toList.dropWhile isBlank).reverse.dropWhile isBlank).reverse

/-- The pieces of `chars` between line feeds, which are dropped; there is always at least one. -/
def splitLines : List Char → List (List Char)
  | [] => [[]]
  | '\n' :: chars => [] :: splitLines chars
  | c :: chars =>
    match splitLines chars with
    | [] => [[c]]
    | line :: lines => (c :: line) :: lines

/-- The lines of `chars`, each with the line feed that ends it; only the last may lack one. -/
def cutLines : List Char → List (List Char)
  | [] => []
  | '\n' :: chars => ['\n'] :: cutLines chars
  | c :: chars =>
    match cutLines chars with
    | [] => [[c]]
    | line :: lines => (c :: line) :: lines

/-- Cutting into lines loses nothing. -/
theorem flatten_cutLines (chars : List Char) : (cutLines chars).flatten = chars := by
  fun_induction cutLines chars with
  | case1 => rfl
  | case2 chars ih => simp [ih]
  | case3 c chars _ heq ih => simp [heq] at ih; simp [← ih]
  | case4 c chars _ line lines heq ih => simp [heq] at ih; simp [ih]

end MarkdownTemplate
