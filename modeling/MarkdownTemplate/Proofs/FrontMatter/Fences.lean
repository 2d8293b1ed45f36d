import Mathlib.Data.List.Basic
import MarkdownTemplate.FrontMatter

/-!
# Fences of a header region

A document that is cut at its header region is the line of one fence, the region, the line of
another fence, and the body. Nothing else is in it, and of the region the header lacks the last line
break only.

* `getLast?_of_cutLines`: every line but the last ends in a line feed;
* `FrontMatter.IsFenced`: the text of a document that is cut;
* `FrontMatter.split_eq_some`: its lines.
-/

namespace MarkdownTemplate

/-! ### Line breaks -/

section LineBreaks

variable {c : Char} {chars out : List Char}

theorem eq_concat_dropEnd (h : chars.getLast? = some c) : chars = dropEnd c chars ++ [c] := by
  rw [dropEnd, if_pos h]
  exact (List.dropLast_append_getLast? c h).symm

theorem dropEnd_eq_self (h : chars.getLast? ≠ some c) : dropEnd c chars = chars := by
  rw [dropEnd, if_neg h]

/-- `dropEnd c` removes one `c` at the end, or nothing. -/
theorem eq_or_eq_concat_of_dropEnd (h : dropEnd c chars = out) :
    chars = out ∨ chars = out ++ [c] := by
  by_cases hlast : chars.getLast? = some c
  · rw [← h]
    exact Or.inr (eq_concat_dropEnd hlast)
  · rw [dropEnd_eq_self hlast] at h
    exact Or.inl h

/-- `dropLineBreak` removes `\n` or `\r\n` from a text that ends in a line feed. -/
theorem eq_of_dropLineBreak_of_lineFeed (h : dropLineBreak chars = out)
    (hlast : chars.getLast? = some '\n') : chars = out ++ ['\n'] ∨ chars = out ++ ['\r', '\n'] := by
  have hchars := eq_concat_dropEnd hlast
  rcases eq_or_eq_concat_of_dropEnd h with hline | hline
  · rw [hline] at hchars
    exact Or.inl hchars
  · rw [hline, List.append_assoc] at hchars
    exact Or.inr hchars

/-- `dropLineBreak` removes at most `\r` from a text that does not end in a line feed. -/
theorem eq_of_dropLineBreak_of_not_lineFeed (h : dropLineBreak chars = out)
    (hlast : chars.getLast? ≠ some '\n') : chars = out ∨ chars = out ++ ['\r'] := by
  rw [dropLineBreak, dropEnd_eq_self hlast] at h
  exact eq_or_eq_concat_of_dropEnd h

/-- All lines of `cutLines` but the last one end in a line feed. -/
theorem getLast?_of_cutLines {before after : List (List Char)}
    (h : cutLines chars = before ++ after) (hafter : after ≠ []) :
    ∀ line ∈ before, line.getLast? = some '\n' := by
  fun_induction cutLines chars generalizing before with
  | case1 =>
    obtain ⟨rfl, -⟩ := List.append_eq_nil_iff.mp h.symm
    simp
  | case2 rest ih =>
    cases before with
    | nil => simp
    | cons line before =>
      obtain ⟨rfl, hrest⟩ := List.cons.inj h
      rw [List.forall_mem_cons]
      exact ⟨rfl, ih hrest⟩
  | case3 c rest hc hnone ih =>
    -- a line that is the only one is not before others
    cases before with
    | nil => simp
    | cons line before =>
      obtain ⟨-, hrest⟩ := List.cons.inj h
      exact absurd (List.append_eq_nil_iff.mp hrest.symm).2 hafter
  | case4 c rest hc first lines hlines ih =>
    cases before with
    | nil => simp
    | cons line before =>
      obtain ⟨rfl, hrest⟩ := List.cons.inj h
      have hsplit : cutLines rest = first :: before ++ after := by
        rw [hlines, hrest]
        rfl
      have hall := ih hsplit
      rw [List.forall_mem_cons] at hall ⊢
      refine ⟨?_, hall.2⟩
      rw [List.getLast?_cons, hall.1]
      rfl

end LineBreaks

/-- The spellings of a fence with its line feed. -/
def Format.fenceLines (format : Format) : List String :=
  [format.delimiter ++ "\n", format.delimiter ++ "\r\n"]

/-- The spellings of a fence without line feed, at the end of a document. -/
def Format.endLines (format : Format) : List String :=
  [format.delimiter, format.delimiter ++ "\r"]

theorem Format.mem_fenceLines_iff {format : Format} {line : String} :
    line ∈ format.fenceLines ↔
      line = format.delimiter ++ "\n" ∨ line = format.delimiter ++ "\r\n" := by
  rw [fenceLines, List.mem_pair]

theorem Format.mem_endLines_iff {format : Format} {line : String} :
    line ∈ format.endLines ↔ line = format.delimiter ∨ line = format.delimiter ++ "\r" := by
  rw [endLines, List.mem_pair]

namespace FrontMatter

/-- `raw` is an opening fence, `region`, a closing fence, and the body. -/
structure IsFenced (raw : String) (parts : FrontMatter) (region closing : String) : Prop where
  /-- The parts of the document. -/
  raw_eq : raw = parts.fence ++ region ++ closing ++ parts.body
  /-- The line before the region. -/
  opening : parts.fence ∈ parts.format.fenceLines
  /-- The region, of which the header lacks the last line break. -/
  header : region = "" ∧ parts.header = "" ∨
    region = parts.header ++ "\n" ∨ region = parts.header ++ "\r\n"
  /-- The line after the region, which may lack its line feed at the end of the document. -/
  closing : closing ∈ parts.format.fenceLines ∨
    parts.body = "" ∧ closing ∈ parts.format.endLines

theorem opened?_eq_some {toml : Bool} {line : List Char} {format : Format}
    (h : opened? toml line = some format) :
    line.getLast? = some '\n' ∧ isFence format line = true := by
  unfold opened? at h
  split at h
  · exact absurd h (by simp)
  · rename_i hlast
    refine ⟨by simpa using hlast, ?_⟩
    split at h
    · rename_i hyaml
      rwa [← Option.some.inj h]
    · split at h
      · rename_i htoml
        rw [Bool.and_eq_true] at htoml
        rw [← Option.some.inj h]
        exact htoml.2
      · exact absurd h (by simp)

/-- `closeAt?` cuts `lines` at the first fence. -/
theorem closeAt?_eq_some {format : Format} {lines region body : List (List Char)}
    (h : closeAt? format lines = some (region, body)) :
    ∃ closing, lines = region ++ closing :: body ∧ isFence format closing = true ∧
      ∀ line ∈ region, isFence format line = false := by
  induction lines generalizing region with
  | nil => exact absurd h (by simp [closeAt?])
  | cons line lines ih =>
    rw [closeAt?] at h
    split at h
    · rename_i hfence
      obtain ⟨rfl, rfl⟩ := Prod.mk.inj (Option.some.inj h)
      exact ⟨line, rfl, hfence, by simp⟩
    · rename_i hfence
      obtain ⟨⟨region, body⟩, hclose, hparts⟩ := Option.map_eq_some_iff.mp h
      obtain ⟨rfl, rfl⟩ := Prod.mk.inj hparts
      obtain ⟨closing, rfl, hclosing, hregion⟩ := ih hclose
      refine ⟨closing, rfl, hclosing, ?_⟩
      rw [List.forall_mem_cons]
      exact ⟨by simpa using hfence, hregion⟩

/-- `split` cuts the lines of `raw` into a fence, a region, a fence and a body. -/
theorem split_eq_some {toml : Bool} {raw : String} {parts : FrontMatter}
    (h : split toml raw = some parts) :
    ∃ fence region closing body, cutLines raw.toList = fence :: (region ++ closing :: body) ∧
      opened? toml fence = some parts.format ∧ isFence parts.format closing = true ∧
      (∀ line ∈ region, isFence parts.format line = false) ∧
      parts = ⟨parts.format, String.ofList fence, String.ofList (dropLineBreak region.flatten),
        String.ofList body.flatten⟩ := by
  unfold split at h
  split at h
  · exact absurd h (by simp)
  · rename_i fence lines hlines
    obtain ⟨format, hopened, hrest⟩ := Option.bind_eq_some_iff.mp h
    obtain ⟨⟨region, body⟩, hclose, hparts⟩ := Option.bind_eq_some_iff.mp hrest
    obtain ⟨closing, rfl, hclosing, hregion⟩ := closeAt?_eq_some hclose
    obtain rfl := Option.some.inj hparts
    exact ⟨fence, region, closing, body, hlines, hopened, hclosing, hregion, rfl⟩

section Lines

variable {format : Format} {line : List Char}

theorem mem_fenceLines_of_isFence (hfence : isFence format line = true)
    (hlast : line.getLast? = some '\n') : String.ofList line ∈ format.fenceLines := by
  rw [isFence, beq_iff_eq] at hfence
  rcases eq_of_dropLineBreak_of_lineFeed hfence hlast with rfl | rfl
  · simp [Format.fenceLines]
  · simp [Format.fenceLines]

theorem mem_endLines_of_isFence (hfence : isFence format line = true)
    (hlast : line.getLast? ≠ some '\n') : String.ofList line ∈ format.endLines := by
  rw [isFence, beq_iff_eq] at hfence
  rcases eq_of_dropLineBreak_of_not_lineFeed hfence hlast with rfl | rfl
  · simp [Format.endLines]
  · simp [Format.endLines]

end Lines

end FrontMatter

end MarkdownTemplate
