import MarkdownTemplate.Json.Reader

/-!
# Reading strings of JSON text

A character of a JSON string is spelled as it stands, by an escape of one letter, or by its code in
four digits. The spelling that is written is one of these, and each of them is read as the
character, so a string is read back from its text, whatever stands behind it.

* `Json.IsSpelling`: the spellings of a character;
* `Json.isSpelling_escapedChar`: the spelling that is written;
* `Json.stringBody_spelling`: a spelling that is read;
* `Json.readString_stringText`: a string that is read back from its text.
-/

namespace MarkdownTemplate

namespace Json

/-- The position behind `chars`. -/
def Position.after (position : Position) (chars : List Char) : Position :=
  chars.foldl Position.next position

theorem Position.after_append (position : Position) (first second : List Char) :
    position.after (first ++ second) = (position.after first).after second :=
  List.foldl_append

/-- The spellings of `c` inside a JSON string. An escape of four digits can spell only characters
below the surrogates. -/
inductive IsSpelling (c : Char) : List Char → Prop
  /-- The character as it stands. -/
  | plain (hquote : c ≠ '"') (hbackslash : c ≠ '\\') (hcontrol : 32 ≤ c.toNat) : IsSpelling c [c]
  /-- An escape of one letter. -/
  | letter {letter : Char} (h : shortEscape? letter = some c) : IsSpelling c ['\\', letter]
  /-- The code of the character. -/
  | code {digits : List Char} (hlength : digits.length = 4)
      (hcode : readPlaces? 16 4 digits = some c.toNat) (hsmall : c.toNat < 0xd800) :
      IsSpelling c ('\\' :: 'u' :: digits)

theorem readPlaces?_hexText_of_lt :
    ∀ n < 32, (hexText 4 false n).length = 4 ∧ readPlaces? 16 4 (hexText 4 false n) = some n := by
  decide

/-- `escapedChar c` is a spelling of `c`. -/
theorem isSpelling_escapedChar (c : Char) : IsSpelling c (escapedChar c) := by
  unfold escapedChar
  split
  -- the characters that have an escape of one letter
  iterate 7 exact .letter rfl
  rename_i hquote hbackslash _ _ _ _ _
  split
  · rename_i hcontrol
    obtain ⟨hlength, hcode⟩ := readPlaces?_hexText_of_lt c.toNat hcontrol
    exact .code hlength hcode (by omega)
  · exact .plain hquote hbackslash (by omega)

/-- `stringBody` skips the characters of an escape that is already decoded. -/
theorem stringBody_passed (decode : Bool) (text : List Char) (position : Position)
    (passed rest : List Char) :
    stringBody decode passed.length text position (passed ++ rest) =
      stringBody decode 0 text (position.after passed) rest := by
  induction passed generalizing position with
  | nil => rfl
  | cons c passed ih => exact ih (position.next c)

theorem readPlaces?_append {base count : Nat} {digits : List Char}
    (hlength : digits.length = count) (rest : List Char) :
    readPlaces? base count (digits ++ rest) = readPlaces? base count digits := by
  rw [readPlaces?, readPlaces?, ← hlength, List.take_left, List.take_length]

/-- `unicodeEscape` decodes four digits of a code below the surrogates. -/
theorem unicodeEscape_of_readPlaces? {cursor : Cursor} {code : Nat}
    (hcode : readPlaces? 16 4 cursor.rest = some code) (hsmall : code < 0xd800) :
    unicodeEscape cursor = .ok (Char.ofNat code, 4) := by
  have hlow : ¬ (0xdc00 ≤ code ∧ code ≤ 0xdfff) := by omega
  rw [unicodeEscape, hexEscape, hcode]
  simp [bind, Except.bind, hlow, hsmall, pure, Except.pure]

section Spelling

variable (text : List Char) (position : Position) (rest : List Char)

theorem stringBody_plain {c : Char} (hquote : c ≠ '"') (hbackslash : c ≠ '\\')
    (hcontrol : 32 ≤ c.toNat) :
    stringBody true 0 text position (c :: rest) =
      stringBody true 0 (c :: text) (position.next c) rest := by
  rw [stringBody.eq_def]
  simp [hquote, hbackslash, Nat.not_lt.mpr hcontrol]

theorem stringBody_letter {letter c : Char} (h : shortEscape? letter = some c) :
    stringBody true 0 text position ('\\' :: letter :: rest) =
      stringBody true 1 (c :: text) (position.next '\\') (letter :: rest) := by
  have hletter : letter ≠ 'u' := by
    rintro rfl
    cases h
  rw [stringBody.eq_def]
  simp [hletter, h]

theorem stringBody_code {digits : List Char} {c : Char} (hlength : digits.length = 4)
    (hcode : readPlaces? 16 4 digits = some c.toNat) (hsmall : c.toNat < 0xd800) :
    stringBody true 0 text position ('\\' :: 'u' :: (digits ++ rest)) =
      stringBody true 5 (c :: text) (position.next '\\') ('u' :: (digits ++ rest)) := by
  have hread : unicodeEscape ⟨digits ++ rest, (position.next '\\').next 'u'⟩ = .ok (c, 4) := by
    rw [← Char.ofNat_toNat c]
    exact unicodeEscape_of_readPlaces? (by rw [readPlaces?_append hlength, hcode]) hsmall
  rw [stringBody.eq_def]
  simp [hread]

/-- `stringBody` reads each spelling of `c` as `c`. -/
theorem stringBody_spelling {c : Char} {spelling : List Char} (h : IsSpelling c spelling) :
    stringBody true 0 text position (spelling ++ rest) =
      stringBody true 0 (c :: text) (position.after spelling) rest := by
  cases h with
  | plain hquote hbackslash hcontrol =>
    exact stringBody_plain text position rest hquote hbackslash hcontrol
  | @letter letter hletter =>
    rw [List.cons_append, List.singleton_append, stringBody_letter text position rest hletter]
    exact stringBody_passed true (c :: text) (position.next '\\') [letter] rest
  | @code digits hlength hcode hsmall =>
    rw [List.cons_append, List.cons_append,
      stringBody_code text position rest hlength hcode hsmall]
    have hpassed := stringBody_passed true (c :: text) (position.next '\\') ('u' :: digits) rest
    rwa [List.length_cons, hlength] at hpassed

end Spelling

/-- `stringBody` inverts `escapedChar` character by character. -/
theorem stringBody_flatMap (chars text : List Char) (position : Position) (rest : List Char) :
    stringBody true 0 text position (chars.flatMap escapedChar ++ rest) =
      stringBody true 0 (chars.reverse ++ text) (position.after (chars.flatMap escapedChar))
        rest := by
  induction chars generalizing text position with
  | nil => rfl
  | cons c chars ih =>
    rw [List.flatMap_cons, List.append_assoc,
      stringBody_spelling text position _ (isSpelling_escapedChar c), ih, Position.after_append,
      List.reverse_cons, List.append_assoc, List.singleton_append]

/-- `readString` inverts `stringText`. -/
theorem readString_stringText (text : String) (position : Position) (rest : List Char) :
    readString (Cursor.skip ⟨stringText text ++ rest, position⟩) =
      .ok (text, ⟨rest, position.after (stringText text)⟩) := by
  have hsplit : stringText text ++ rest =
      '"' :: (text.toList.flatMap escapedChar ++ '"' :: rest) := by
    simp [stringText]
  have hafter : position.after (stringText text) =
      ((position.next '"').after (text.toList.flatMap escapedChar)).next '"' := by
    rw [stringText, List.cons_append, Position.after, List.foldl_cons, List.foldl_append]
    rfl
  rw [hsplit, Cursor.skip, readString, stringBody_flatMap, stringBody.eq_def, hafter]
  simp

end Json

end MarkdownTemplate
