import Mathlib.Data.List.Infix
import MarkdownTemplate.Proofs.Body.TwoReadings

/-!
# The shortcut for bodies without markers

A body in which no marker can start is a single text and is not read at all. Whether one can start
is found out by a search for two bytes. This file shows that the search finds the characters that
start every marker, whatever else is in the body, and that reading a body without them ends with
what the shortcut gives. So the shortcut makes no difference for any body.

* `utf8Bytes_infix_iff`: what the search for bytes finds;
* `markers_eq_nil_of_mayContainMarkers_eq_false`: what it says about markers;
* `ParsedBody.ofMarkers_of_markers_eq_nil`: reading a body without markers marker by marker;
* `shortcut_ofString`: with and without the shortcut.
-/

namespace MarkdownTemplate

/-! ### Searching bytes -/

/-- The UTF-8 bytes of `text`. -/
def utf8Bytes (text : String) : List UInt8 :=
  text.toUTF8.data.toList

theorem utf8Bytes_eq_flatMap (text : String) :
    utf8Bytes text = text.toList.flatMap String.utf8EncodeChar := by
  rw [utf8Bytes, String.toUTF8_eq_toByteArray]
  conv_lhs => rw [← String.ofList_toList (s := text)]
  rw [String.toByteArray_ofList, List.utf8Encode, List.data_toByteArray]

/-- If `first` is not in `left`, then `[first, second]` is found in `left ++ right` only inside
`right`. -/
theorem pair_infix_append_iff {α : Type} {first second : α} {left : List α} (h : first ∉ left)
    (right : List α) : [first, second] <:+: left ++ right ↔ [first, second] <:+: right := by
  induction left with
  | nil => rfl
  | cons other left ih =>
    rw [List.mem_cons, not_or] at h
    rw [List.cons_append, List.infix_cons_iff, List.cons_prefix_cons, ih h.2]
    simp [h.1]

section Ascii

variable {first second : Char}

theorem utf8EncodeChar_of_lt (hfirst : first.val.toNat < 128) :
    String.utf8EncodeChar first = [first.val.toUInt8] := by
  apply String.utf8EncodeChar_eq_singleton
  rw [Char.utf8Size_eq_one_iff, UInt32.le_iff_toNat_le]
  exact Nat.le_of_lt_succ hfirst

/-- The byte of the ASCII character `first` occurs in the UTF-8 bytes of no other character. -/
theorem mem_utf8EncodeChar_iff (hfirst : first.val.toNat < 128) (c : Char) :
    first.val.toUInt8 ∈ String.utf8EncodeChar c ↔ c = first := by
  have hbyte : ∀ n, first.val.toUInt8 = UInt8.ofNat n ↔ first.val.toNat = n % 256 := by
    intro n
    rw [← UInt8.toNat_inj, UInt8.toNat_ofNat', UInt32.toNat_toUInt8]
    omega
  rw [← Char.val_inj, ← UInt32.toNat_inj, String.utf8EncodeChar]
  -- in an encoding of more than one byte, each of them is 128 or more
  split_ifs <;> simp only [List.mem_cons, List.not_mem_nil, or_false, hbyte] <;> omega

/-- The byte of the ASCII character `first` comes first in the bytes of a text if and only if
`first` comes first in the text. -/
theorem singleton_prefix_flatMap_iff (hfirst : first.val.toNat < 128) (chars : List Char) :
    [first.val.toUInt8] <+: chars.flatMap String.utf8EncodeChar ↔ [first] <+: chars := by
  cases chars with
  | nil => simp
  | cons c chars =>
    rw [List.flatMap_cons]
    constructor
    · intro h
      -- the first byte belongs to `c`, and no other character has this byte
      have hne : String.utf8EncodeChar c ≠ [] := String.utf8EncodeChar_ne_nil
      obtain ⟨byte, bytes, hencode⟩ := List.exists_cons_of_ne_nil hne
      rw [hencode, List.cons_append, List.cons_prefix_cons] at h
      have hmem : first.val.toUInt8 ∈ String.utf8EncodeChar c := by
        rw [hencode, h.1]
        exact List.mem_cons_self
      rw [(mem_utf8EncodeChar_iff hfirst c).mp hmem]
      exact List.prefix_append [first] chars
    · intro h
      rw [List.cons_prefix_cons] at h
      rw [← h.1, utf8EncodeChar_of_lt hfirst]
      exact List.prefix_append _ _

/-- The bytes of two ASCII characters are found in the bytes of a text if and only if the characters
are found in the text. -/
theorem pair_infix_flatMap_iff (hfirst : first.val.toNat < 128) (hsecond : second.val.toNat < 128)
    (chars : List Char) :
    [first.val.toUInt8, second.val.toUInt8] <:+: chars.flatMap String.utf8EncodeChar ↔
      [first, second] <:+: chars := by
  induction chars with
  | nil => simp
  | cons c chars ih =>
    rw [List.flatMap_cons, List.infix_cons_iff, List.cons_prefix_cons, ← ih]
    -- only the byte of the first character itself can start the pair
    by_cases hc : c = first
    · subst hc
      rw [utf8EncodeChar_of_lt hfirst, List.singleton_append, List.infix_cons_iff,
        List.cons_prefix_cons, singleton_prefix_flatMap_iff hsecond]
      simp
    · have hnotMem : first.val.toUInt8 ∉ String.utf8EncodeChar c := by
        rwa [mem_utf8EncodeChar_iff hfirst]
      rw [pair_infix_append_iff hnotMem]
      simp [Ne.symm hc]

end Ascii

/-- `mayContainMarkers` searches for the two characters that start every marker. -/
theorem mayContainMarkers_iff (chars : List Char) :
    mayContainMarkers chars = true ↔ ['#', '{'] <:+: chars := by
  fun_induction mayContainMarkers chars with
  | case1 rest =>
    have hstart : ['#', '{'] <:+: '#' :: '{' :: rest := List.infix_append [] _ rest
    simp [hstart]
  | case2 c chars hstart ih =>
    rw [ih, List.infix_cons_iff]
    have hnot : ¬ ['#', '{'] <+: c :: chars := by
      rintro ⟨rest, hrest⟩
      obtain ⟨rfl, rfl⟩ := List.cons.inj hrest
      exact hstart rest rfl rfl
    simp [hnot]
  | case3 => simp

theorem utf8Bytes_infix_iff (body : String) :
    utf8Bytes (String.ofList ['#', '{']) <:+: utf8Bytes body ↔
      mayContainMarkers body.toList = true := by
  have hneedle : utf8Bytes (String.ofList ['#', '{']) =
      ['#'.val.toUInt8, '{'.val.toUInt8] := by
    rw [utf8Bytes_eq_flatMap]
    rfl
  rw [hneedle, utf8Bytes_eq_flatMap, mayContainMarkers_iff]
  exact pair_infix_flatMap_iff (by decide) (by decide) body.toList

/-! ### Bodies without markers -/

theorem markers_eq_nil_of_mayContainMarkers_eq_false {body : String}
    (h : mayContainMarkers body.toList = false) : markers body = [] := by
  rw [markers, Piece.ofChars_of_mayContainMarkers_eq_false _ h]
  split
  · rfl
  · rfl

namespace ParsedBody

/-- A body without markers is parsed to one text, whether or not `mayContainMarkers` holds of it. -/
theorem ofMarkers_of_markers_eq_nil (recovery : Recovery) (header : Header) {body : String}
    (h : markers body = []) :
    ofMarkers recovery header body = .ok ⟨Node.pushText [] body, [], [], header⟩ := by
  have hcut : Span.cut? ⟨0, byteLength body.toList⟩ body = some body := by
    have hslice := Span.slice?_append [] body.toList []
    rw [List.append_nil, List.nil_append, String.ofList_toList, byteLength_nil, Nat.zero_add]
      at hslice
    exact (if_pos (Nat.zero_le _)).trans hslice
  have hread : BodyScan.readTo { header } body (byteLength body.toList) =
      .ok { header
            cursor := byteLength body.toList
            scopes := [⟨none, Node.pushText [] body⟩] } := by
    rw [BodyScan.readTo, hcut]
    rfl
  rw [ofMarkers, h, BodyScan.ofMarkers, List.foldlM_nil]
  simp only [pure, Except.pure, bind, Except.bind, hread]
  cases recovery <;> rfl

end ParsedBody

/-- The early return of `ParsedBody.ofString` changes no result. Searching the UTF-8 bytes of a body
for `#{` decides `mayContainMarkers`. If this is `false`, then the early result equals those of
`ParsedBody.ofMarkers` and `ParsedBody.ofPieces`, which do not take the shortcut. On every body,
these two agree with `ParsedBody.ofString`. -/
theorem shortcut_ofString (recovery : Recovery) (header : Header) (body : String) :
    (utf8Bytes (String.ofList ['#', '{']) <:+: utf8Bytes body ↔
      mayContainMarkers body.toList = true) ∧
    (mayContainMarkers body.toList = false →
      let early : ParsedBody := ⟨Node.pushText [] body, [], [], header⟩
      markers body = [] ∧ ParsedBody.ofString recovery header body = early ∧
        ParsedBody.ofMarkers recovery header body = .ok early ∧
        ParsedBody.ofPieces recovery header (Piece.ofChars body.toList) = early) ∧
    ParsedBody.ofMarkers recovery header body = .ok (ParsedBody.ofString recovery header body) ∧
    ParsedBody.ofPieces recovery header (Piece.ofChars body.toList) =
      ParsedBody.ofString recovery header body := by
  have hpieces := ParsedBody.ofString_eq_ofPieces recovery header body
  refine ⟨utf8Bytes_infix_iff body, ?_, ParsedBody.ofMarkers_eq_ok recovery header body,
    hpieces.symm⟩
  intro h early
  have hmarkers := markers_eq_nil_of_mayContainMarkers_eq_false h
  have hearly : ParsedBody.ofString recovery header body = early := by
    rw [ParsedBody.ofString, if_neg (by simp [h])]
  exact ⟨hmarkers, hearly, ParsedBody.ofMarkers_of_markers_eq_nil recovery header hmarkers,
    hpieces ▸ hearly⟩

end MarkdownTemplate
