import Mathlib.Data.List.Forall2
import MarkdownTemplate.Proofs.Marker.Occurrences

/-!
# Markers in other spellings

The markers of a text may be replaced by others. This changes nothing about how the text is cut, as
long as they can be read: a text between two markers ends at a number sign before and after, and a
marker that starts in it would have to end before that.

* `Piece.IsRespelled`: a piece in another spelling;
* `Marker.read?_cons_eq_none`: where a marker is read, only the characters before the next number
  sign matter;
* `Piece.ofChars_respelled`: pieces in another spelling are cut into themselves.
-/

namespace MarkdownTemplate

/-- If `read?` finds no marker in front of `c :: rest`, it finds none in front of `c :: other`,
where `other` is the same up to the next `#`. -/
theorem Marker.read?_cons_eq_none {c : Char} {rest other : List Char}
    (h : read? (c :: rest) = none)
    (hsame : rest.takeWhile (· ≠ '#') = other.takeWhile (· ≠ '#')) :
    read? (c :: other) = none := by
  cases hread : read? (c :: other) with
  | none => rfl
  | some read =>
    obtain ⟨found, after⟩ := read
    have hreadable := isReadable_of_read? hread
    have hchars := chars_append_of_read? hread
    rw [found.chars_eq_cons, List.cons_append] at hchars
    obtain ⟨hsharp, rfl⟩ := List.cons.inj hchars
    -- all of the marker but its first character comes before the next number sign
    have htail : ∀ d ∈ found.chars.tail, decide (d ≠ '#') = true := by
      intro d hd
      rw [decide_eq_true_eq]
      rintro rfl
      exact hreadable.not_mem_tail_chars hd
    rw [List.takeWhile_append_of_pos htail] at hsame
    have hrest : c :: rest = found.chars ++
        (after.takeWhile (· ≠ '#') ++ rest.dropWhile (· ≠ '#')) := by
      rw [← List.append_assoc, found.chars_eq_cons, List.cons_append, ← hsame, ← hsharp,
        List.cons_append, List.takeWhile_append_dropWhile]
    rw [hrest, hreadable.read?_append] at h
    exact absurd h (by simp)

namespace Piece

/-- The second piece is the first in another spelling: the same text, or a readable marker in the
place of a marker. -/
inductive IsRespelled : Piece → Piece → Prop
  | text (chars : List Char) : IsRespelled (text chars) (text chars)
  | marker (found other : Marker) (hreadable : other.IsReadable) :
      IsRespelled (marker found) (marker other)

variable {pieces run : List Piece}

/-- Up to the first `#`, respelled pieces have the same characters. -/
theorem takeWhile_chars_respelled (h : List.Forall₂ IsRespelled pieces run) :
    (pieces.flatMap chars).takeWhile (· ≠ '#') = (run.flatMap chars).takeWhile (· ≠ '#') := by
  induction h with
  | nil => rfl
  | cons hpiece _ ih =>
    cases hpiece with
    | text written =>
      rw [List.flatMap_cons, List.flatMap_cons, List.takeWhile_append, List.takeWhile_append, ih]
    | marker found other hreadable =>
      rw [List.flatMap_cons, List.flatMap_cons, chars, chars, found.chars_eq_cons,
        other.chars_eq_cons]
      simp

/-- Pieces respelled from `cons c pieces` are `cons c` of pieces respelled from `pieces`. -/
theorem respelled_cons {c : Char} (h : List.Forall₂ IsRespelled (cons c pieces) run) :
    ∃ others, run = cons c others ∧ List.Forall₂ IsRespelled pieces others := by
  rcases cons_cases c pieces with ⟨written, later, rfl, hcons⟩ | ⟨hnot, hcons⟩
  · rw [hcons] at h
    obtain ⟨_, others, hfirst, hothers, rfl⟩ := List.forall₂_cons_left_iff.mp h
    cases hfirst
    exact ⟨.text written :: others, rfl, .cons (.text written) hothers⟩
  · rw [hcons] at h
    obtain ⟨_, others, hfirst, hothers, rfl⟩ := List.forall₂_cons_left_iff.mp h
    cases hfirst
    refine ⟨others, ?_, hothers⟩
    -- the other pieces start with a text only if the pieces do
    cases hothers with
    | nil => rfl
    | cons hpiece hlater =>
      cases hpiece with
      | text written => exact absurd rfl (hnot written _)
      | marker found other hreadable => rfl

/-- `ofChars` cuts the characters of respelled pieces of a text into these pieces. -/
theorem ofChars_respelled {chars : List Char} (h : List.Forall₂ IsRespelled (ofChars chars) run) :
    ofChars (run.flatMap Piece.chars) = run := by
  fun_induction ofChars chars generalizing run with
  | case1 =>
    rw [List.forall₂_nil_left_iff.mp h]
    exact ofChars_nil
  | case2 c rest found after hread ih =>
    obtain ⟨_, others, hfirst, hothers, rfl⟩ := List.forall₂_cons_left_iff.mp h
    cases hfirst with
    | marker _ other hreadable =>
      rw [List.flatMap_cons]
      exact (ofChars_chars_append hreadable _).trans (congrArg _ (ih hothers))
  | case3 c rest hread ih =>
    obtain ⟨others, rfl, hothers⟩ := respelled_cons h
    have hsame := takeWhile_chars_respelled hothers
    rw [flatMap_chars_ofChars] at hsame
    rw [flatMap_chars_cons, ofChars_cons (Marker.read?_cons_eq_none hread hsame), ih hothers]

end Piece

end MarkdownTemplate
