import MarkdownTemplate.Diagnostic

/-!
# Diagnostics on one line

Whatever an error quotes, a diagnostic about it is shown on one line: its lines are trimmed and
joined before they become part of the message.

* `IsOneLine`: a text without line feeds;
* `isOneLine_joinedLines`: the joined lines of any text;
* `isOneLine_display_malformedHeader` and `isOneLine_display_unclosedBlock`: the diagnostics as they
  are shown.
-/

namespace MarkdownTemplate

/-- `text` has no line feed. -/
def IsOneLine (text : String) : Prop :=
  '\n' ∉ text.toList

instance : DecidablePred IsOneLine :=
  fun text => inferInstanceAs (Decidable ('\n' ∉ text.toList))

/-- The lines of `splitLines` have no line feed. -/
theorem lineFeed_not_mem_of_mem_splitLines {chars line : List Char} (h : line ∈ splitLines chars) :
    '\n' ∉ line := by
  fun_induction splitLines chars generalizing line with
  | case1 =>
    rw [List.mem_singleton.mp h]
    exact List.not_mem_nil
  | case2 chars ih =>
    rcases List.mem_cons.mp h with rfl | hline
    · exact List.not_mem_nil
    · exact ih hline
  | case3 c chars hc hnone ih =>
    rw [List.mem_singleton.mp h, List.mem_singleton]
    exact fun hfeed => hc hfeed.symm
  | case4 c chars hc first lines hlines ih =>
    rw [hlines] at ih
    rcases List.mem_cons.mp h with rfl | hline
    -- the character joins the first of the lines after it
    · rw [List.mem_cons, not_or]
      exact ⟨fun hfeed => hc hfeed.symm, ih List.mem_cons_self⟩
    · exact ih (List.mem_cons_of_mem first hline)

/-- `trim` adds no characters. -/
theorem mem_toList_of_mem_trim {text : String} {c : Char} (h : c ∈ (trim text).toList) :
    c ∈ text.toList := by
  -- the blanks at the end are dropped last, so they come back first
  rw [trim, String.toList_ofList, List.mem_reverse] at h
  have hfront := (List.dropWhile_sublist isBlank).subset h
  rw [List.mem_reverse] at hfront
  exact (List.dropWhile_sublist isBlank).subset hfront

namespace IsOneLine

theorem append {first second : String} (hfirst : IsOneLine first) (hsecond : IsOneLine second) :
    IsOneLine (first ++ second) := by
  rw [IsOneLine, String.toList_append, List.mem_append, not_or]
  exact ⟨hfirst, hsecond⟩

theorem trim {text : String} (h : IsOneLine text) : IsOneLine (trim text) :=
  fun hmem => h (mem_toList_of_mem_trim hmem)

theorem intercalate {separator : String} {parts : List String} (hseparator : IsOneLine separator)
    (hparts : ∀ part ∈ parts, IsOneLine part) : IsOneLine (separator.intercalate parts) := by
  induction parts with
  | nil =>
    rw [String.intercalate_nil]
    exact List.not_mem_nil
  | cons part parts ih =>
    rw [List.forall_mem_cons] at hparts
    cases parts with
    | nil =>
      rw [String.intercalate_singleton]
      exact hparts.1
    | cons next parts =>
      rw [String.intercalate_cons_cons]
      exact (hparts.1.append hseparator).append (ih hparts.2)

end IsOneLine

theorem isOneLine_toString (n : Nat) : IsOneLine (toString n) := by
  intro hfeed
  have hdigits : '\n' ∈ Nat.toDigits 10 n := by
    rwa [Nat.toString_eq_ofList_toDigits, String.toList_ofList] at hfeed
  have hdigit := Nat.isDigit_of_mem_toDigits (by decide) (by decide) hdigits
  exact absurd hdigit (by decide)

namespace Diagnostic

/-- `joinedLines` is on one line. -/
theorem isOneLine_joinedLines (text : String) : IsOneLine (joinedLines text) := by
  rw [joinedLines]
  refine IsOneLine.intercalate (by decide) ?_
  intro part hpart
  obtain ⟨line, hline, rfl⟩ := List.mem_map.mp (List.mem_filter.mp hpart).1
  apply IsOneLine.trim
  rw [IsOneLine, String.toList_ofList]
  exact lineFeed_not_mem_of_mem_splitLines hline

/-- `display` is on one line if `message` is. -/
theorem isOneLine_display {diagnostic : Diagnostic} (h : IsOneLine diagnostic.message) :
    IsOneLine diagnostic.display := by
  rw [display]
  split
  · have hplace (span : Span) : IsOneLine s!" (at {span.start}..{span.stop})" :=
      ((((IsOneLine.append (by decide) (isOneLine_toString _)).append (by decide)).append
        (isOneLine_toString _)).append (by decide))
    exact h.append (hplace _)
  · exact h

theorem isOneLine_display_malformedHeader (error : Error) (span : Span) :
    IsOneLine (malformedHeader error span).display := by
  apply isOneLine_display
  exact IsOneLine.append (by decide) (isOneLine_joinedLines error.display)

theorem isOneLine_display_unclosedBlock {marker : String} (h : IsOneLine marker) (span : Span) :
    IsOneLine (unclosedBlock marker span).display := by
  apply isOneLine_display
  exact (IsOneLine.append (by decide) h).append (by decide)

end Diagnostic

end MarkdownTemplate
