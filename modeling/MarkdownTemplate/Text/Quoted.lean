import MarkdownTemplate.Text.Printable

/-!
# Quoted text in messages

`quoted` writes a text between double quotes on one line, so that a message can show any text:
quotes, backslashes and the common control characters are escaped by a backslash, and characters
that are not printable by their code.
-/

namespace MarkdownTemplate

/-- One character of a quoted text. -/
def quotedChar (c : Char) : List Char :=
  match c with
  | '\x00' => ['\\', '0']
  | '\t' => ['\\', 't']
  | '\n' => ['\\', 'n']
  | '\r' => ['\\', 'r']
  | '"' => ['\\', '"']
  | '\\' => ['\\', '\\']
  | c => if isPrintable c then [c] else ['\\', 'u', '{'] ++ Nat.toDigits 16 c.toNat ++ ['}']

/-- The text between double quotes, with everything escaped that would not show. -/
def quoted (text : String) : String :=
  "\"" ++ String.ofList (text.toList.flatMap quotedChar) ++ "\""

end MarkdownTemplate
