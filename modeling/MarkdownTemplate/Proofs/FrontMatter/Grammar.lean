import MarkdownTemplate.Proofs.FrontMatter.Fences

/-!
# The grammar of front matter

A document has front matter if it can be written as a fence, complete lines that are no fences, a
second fence, and a body. The search for the two fences finds this form whenever there is one, and
there is at most one: cutting the document into lines finds its lines again.

* `cutLines_join_append` and `cutLines_of_lineFeed_not_mem`: cutting finds lines again;
* `FrontMatter.IsLaidOut`: the form of a document with front matter;
* `FrontMatter.isLaidOut_of_split` and `FrontMatter.IsLaidOut.split_eq`: the search finds that form;
* `FrontMatter.fenced_of_split`: the parts that are found, and the fences around them;
* `split_eq_some_iff_isLaidOut`: front matter is found exactly in documents of that form.
-/

namespace MarkdownTemplate

/-! ### Lines -/

/-- `line` ends in a line feed and has no other. -/
def IsLine (line : String) : Prop :=
  ∃ content : String, '\n' ∉ content.toList ∧ line = content ++ "\n"

theorem cutLines_append_lineFeed {content : List Char} (hcontent : '\n' ∉ content)
    (rest : List Char) :
    cutLines (content ++ '\n' :: rest) = (content ++ ['\n']) :: cutLines rest := by
  induction content with
  | nil =>
    rw [List.nil_append, cutLines]
    rfl
  | cons c content ih =>
    rw [List.mem_cons, not_or] at hcontent
    -- the first character belongs to the line that the others make
    rw [List.cons_append, cutLines, ih hcontent.2]
    · rfl
    · exact fun heq => hcontent.1 heq.symm

/-- `cutLines` finds complete lines in front of `rest`. -/
theorem cutLines_join_append (lines : List String) (hlines : ∀ line ∈ lines, IsLine line)
    (rest : List Char) :
    cutLines ((String.join lines).toList ++ rest) = lines.map String.toList ++ cutLines rest := by
  induction lines with
  | nil => simp
  | cons line lines ih =>
    rw [List.forall_mem_cons] at hlines
    obtain ⟨⟨content, hcontent, rfl⟩, hrest⟩ := hlines
    have hjoin : (String.join ((content ++ "\n") :: lines)).toList ++ rest =
        content.toList ++ '\n' :: ((String.join lines).toList ++ rest) := by
      simp [String.toList_append]
    rw [hjoin, cutLines_append_lineFeed hcontent, ih hrest]
    simp

/-- `cutLines` gives one line for a text without line feed. -/
theorem cutLines_of_lineFeed_not_mem {chars : List Char} (hne : chars ≠ [])
    (hfeed : '\n' ∉ chars) : cutLines chars = [chars] := by
  induction chars with
  | nil => exact absurd rfl hne
  | cons c chars ih =>
    rw [List.mem_cons, not_or] at hfeed
    have hc : c ≠ '\n' := fun heq => hfeed.1 heq.symm
    cases chars with
    | nil => simp [cutLines]
    | cons second chars =>
      rw [cutLines, ih (List.cons_ne_nil _ _) hfeed.2]
      exact hc

/-- A line of `cutLines` has no line feed before its end. -/
theorem lineFeed_not_mem_dropLast_of_mem_cutLines {chars line : List Char}
    (h : line ∈ cutLines chars) : '\n' ∉ line.dropLast := by
  fun_induction cutLines chars generalizing line with
  | case1 => exact absurd h List.not_mem_nil
  | case2 rest ih =>
    rcases List.mem_cons.mp h with rfl | h
    · simp
    · exact ih h
  | case3 c rest hc hnone ih =>
    rw [List.mem_singleton] at h
    simp [h]
  | case4 c rest hc first lines hlines ih =>
    rw [hlines] at ih
    rcases List.mem_cons.mp h with rfl | h
    · have hfirst := ih (List.mem_cons_self ..)
      -- the character joins the first line in front, so it is dropped only if nothing follows it
      cases first with
      | nil => simp
      | cons second first =>
        rw [List.dropLast_cons_of_ne_nil (List.cons_ne_nil _ _), List.mem_cons, not_or]
        exact ⟨fun heq => hc heq.symm, hfirst⟩
    · exact ih (List.mem_cons_of_mem _ h)

/-- All lines of `cutLines` but the last one satisfy `IsLine`. -/
theorem isLine_of_cutLines {chars : List Char} {before after : List (List Char)}
    (h : cutLines chars = before ++ after) (hafter : after ≠ []) :
    ∀ line ∈ before, IsLine (String.ofList line) := by
  intro line hline
  have hlast : line.getLast? = some '\n' := getLast?_of_cutLines h hafter line hline
  have hcut : line ∈ cutLines chars := by
    rw [h]
    exact List.mem_append_left _ hline
  have hfeed := lineFeed_not_mem_dropLast_of_mem_cutLines hcut
  refine ⟨String.ofList line.dropLast, by rwa [String.toList_ofList], ?_⟩
  apply String.toList_injective
  rw [String.toList_append, String.toList_ofList, String.toList_ofList]
  exact (List.dropLast_append_getLast? '\n' hlast).symm

/-! ### Line breaks at the end -/

/-- `header` is `region` without its last line break, if there is one. -/
def LosesLineBreak (region header : String) : Prop :=
  (region = "" ∧ header = "") ∨ region = header ++ "\r\n" ∨
    (region = header ++ "\n" ∧ header.toList.getLast? ≠ some '\r')

theorem dropEnd_concat (c : Char) (chars : List Char) : dropEnd c (chars ++ [c]) = chars := by
  simp [dropEnd]

/-- `LosesLineBreak` is `dropLineBreak` on a region of complete lines. -/
theorem losesLineBreak_iff {region header : String}
    (hend : region = "" ∨ region.toList.getLast? = some '\n') :
    LosesLineBreak region header ↔ dropLineBreak region.toList = header.toList := by
  constructor
  · rintro (⟨rfl, rfl⟩ | rfl | ⟨rfl, hlast⟩)
    · rfl
    · have hbreak : (header ++ "\r\n").toList = (header.toList ++ ['\r']) ++ ['\n'] := by simp
      rw [dropLineBreak, hbreak, dropEnd_concat, dropEnd_concat]
    · have hbreak : (header ++ "\n").toList = header.toList ++ ['\n'] := by simp
      rw [dropLineBreak, hbreak, dropEnd_concat, dropEnd_eq_self hlast]
  · intro hdrop
    rcases hend with rfl | hlast
    · exact Or.inl ⟨rfl, String.toList_injective hdrop.symm⟩
    · right
      -- after the line feed a carriage return may be left to drop
      by_cases hreturn : (dropEnd '\n' region.toList).getLast? = some '\r'
      · left
        apply String.toList_injective
        rw [eq_concat_dropEnd hlast, eq_concat_dropEnd hreturn, ← dropLineBreak, hdrop]
        simp
      · have hheader : dropEnd '\n' region.toList = header.toList := by
          rw [← hdrop, dropLineBreak, dropEnd_eq_self hreturn]
        right
        constructor
        · apply String.toList_injective
          rw [eq_concat_dropEnd hlast, hheader]
          simp
        · rwa [← hheader]

/-! ### Fences -/

theorem Format.isLine_of_mem_fenceLines {format : Format} {line : String}
    (h : line ∈ format.fenceLines) : IsLine line := by
  rcases mem_fenceLines_iff.mp h with rfl | rfl
  · exact ⟨format.delimiter, by cases format <;> decide, rfl⟩
  · refine ⟨format.delimiter ++ "\r", by cases format <;> decide, ?_⟩
    rw [String.append_assoc]
    rfl

theorem Format.cutLines_of_mem_endLines {format : Format} {line : String}
    (h : line ∈ format.endLines) : cutLines line.toList = [line.toList] := by
  rcases mem_endLines_iff.mp h with rfl | rfl
  all_goals
    apply cutLines_of_lineFeed_not_mem
    all_goals cases format <;> decide

namespace FrontMatter

theorem isFence_of_mem_fenceLines {format : Format} {line : String}
    (h : line ∈ format.fenceLines) : isFence format line.toList = true := by
  rcases Format.mem_fenceLines_iff.mp h with rfl | rfl
  all_goals cases format <;> decide

theorem isFence_of_mem_endLines {format : Format} {line : String}
    (h : line ∈ format.endLines) : isFence format line.toList = true := by
  rcases Format.mem_endLines_iff.mp h with rfl | rfl
  all_goals cases format <;> decide

/-- `isFence` holds of a complete line if and only if it is one of `fenceLines`. -/
theorem isFence_iff_mem_fenceLines {format : Format} {line : String} (hline : IsLine line) :
    isFence format line.toList = true ↔ line ∈ format.fenceLines := by
  constructor
  · intro hfence
    obtain ⟨content, -, rfl⟩ := hline
    have hspelled := mem_fenceLines_of_isFence hfence (by simp)
    rwa [String.ofList_toList] at hspelled
  · exact isFence_of_mem_fenceLines

/-- `split toml` looks for a region in `format`. -/
def IsEnabled (toml : Bool) (format : Format) : Prop :=
  format = .yaml ∨ format = .toml ∧ toml = true

theorem isEnabled_of_opened? {toml : Bool} {line : List Char} {format : Format}
    (h : opened? toml line = some format) : IsEnabled toml format := by
  unfold opened? at h
  split at h
  · exact absurd h (by simp)
  · split at h
    · exact Or.inl (Option.some.inj h).symm
    · split at h
      · rename_i htoml
        rw [Bool.and_eq_true] at htoml
        exact Or.inr ⟨(Option.some.inj h).symm, htoml.1⟩
      · exact absurd h (by simp)

/-- `opened?` recognises the fences of each format with `IsEnabled`. -/
theorem opened?_of_mem_fenceLines {toml : Bool} {format : Format} {line : String}
    (henabled : IsEnabled toml format) (hline : line ∈ format.fenceLines) :
    opened? toml line.toList = some format := by
  rw [Format.mem_fenceLines_iff] at hline
  rcases henabled with rfl | ⟨rfl, rfl⟩
  · rcases hline with rfl | rfl
    all_goals cases toml <;> decide
  -- a fence of the other format is none of this one
  · rcases hline with rfl | rfl
    all_goals decide

/-- `closeAt?` finds the first fence. -/
theorem closeAt?_append {format : Format} {region body : List (List Char)} {closing : List Char}
    (hregion : ∀ line ∈ region, isFence format line = false)
    (hclosing : isFence format closing = true) :
    closeAt? format (region ++ closing :: body) = some (region, body) := by
  induction region with
  | nil => rw [List.nil_append, closeAt?, if_pos hclosing]
  | cons line region ih =>
    rw [List.forall_mem_cons] at hregion
    rw [List.cons_append, closeAt?, if_neg (by simp [hregion.1]), ih hregion.2]
    rfl

/-! ### The form of a document -/

/-- `text` is an opening fence, complete `lines` without a fence, a closing fence, and the body. -/
structure IsLaidOut (toml : Bool) (text : String) (parts : FrontMatter) (lines : List String)
    (closing : String) : Prop where
  /-- The format is looked for. -/
  enabled : IsEnabled toml parts.format
  /-- The parts of the document. -/
  text_eq : text = parts.fence ++ String.join lines ++ closing ++ parts.body
  /-- The line before the region. -/
  opening : parts.fence ∈ parts.format.fenceLines
  /-- The lines of the region are complete. -/
  complete : ∀ line ∈ lines, IsLine line
  /-- None of them is a fence. -/
  not_fence : ∀ line ∈ lines, line ∉ parts.format.fenceLines
  /-- The line after the region, which may lack its line feed at the end of the document. -/
  closing : closing ∈ parts.format.fenceLines ∨
    parts.body = "" ∧ closing ∈ parts.format.endLines
  /-- The header is the region without its last line break. -/
  header : LosesLineBreak (String.join lines) parts.header

/-- Complete lines join to the empty text or to one that ends in a line feed. -/
theorem join_eq_or_getLast?_eq {lines : List String} (hlines : ∀ line ∈ lines, IsLine line) :
    String.join lines = "" ∨ (String.join lines).toList.getLast? = some '\n' := by
  rcases List.eq_nil_or_concat' lines with rfl | ⟨init, last, rfl⟩
  · exact Or.inl rfl
  · obtain ⟨content, -, rfl⟩ := hlines last (by simp)
    right
    simp [String.join_append]

namespace IsLaidOut

variable {toml : Bool} {text : String} {parts : FrontMatter} {lines : List String}
  {closing : String}

/-- `cutLines` of a text with `IsLaidOut` are its fences, `lines` and the lines of the body. -/
theorem cutLines_eq (h : IsLaidOut toml text parts lines closing) :
    cutLines text.toList = parts.fence.toList :: (lines.map String.toList ++
      closing.toList :: cutLines parts.body.toList) := by
  have hclosing : cutLines (closing.toList ++ parts.body.toList) =
      closing.toList :: cutLines parts.body.toList := by
    rcases h.closing with hline | ⟨hbody, hend⟩
    · have hcomplete : ∀ line ∈ [closing], IsLine line := by
        rw [List.forall_mem_singleton]
        exact Format.isLine_of_mem_fenceLines hline
      simpa using cutLines_join_append [closing] hcomplete parts.body.toList
    -- at the end of the document the closing line is all that is left
    · rw [hbody, String.toList_empty, List.append_nil, Format.cutLines_of_mem_endLines hend]
      rfl
  have hbefore : ∀ line ∈ parts.fence :: lines, IsLine line := by
    rw [List.forall_mem_cons]
    exact ⟨Format.isLine_of_mem_fenceLines h.opening, h.complete⟩
  have htext : text.toList = (String.join (parts.fence :: lines)).toList ++
      (closing.toList ++ parts.body.toList) := by
    rw [h.text_eq]
    simp
  rw [htext, cutLines_join_append _ hbefore, hclosing]
  rfl

/-- `split` finds the parts of a text with `IsLaidOut`. -/
theorem split_eq (h : IsLaidOut toml text parts lines closing) : split toml text = some parts := by
  have hopened : opened? toml parts.fence.toList = some parts.format :=
    opened?_of_mem_fenceLines h.enabled h.opening
  have hregion : ∀ line ∈ lines.map String.toList, isFence parts.format line = false := by
    intro chars hchars
    obtain ⟨line, hline, rfl⟩ := List.mem_map.mp hchars
    rw [← Bool.not_eq_true, isFence_iff_mem_fenceLines (h.complete line hline)]
    exact h.not_fence line hline
  have hclosing : isFence parts.format closing.toList = true := by
    rcases h.closing with hline | ⟨-, hend⟩
    · exact isFence_of_mem_fenceLines hline
    · exact isFence_of_mem_endLines hend
  have hheader : dropLineBreak (lines.map String.toList).flatten = parts.header.toList := by
    rw [← List.flatMap_def, ← String.toList_join]
    exact (losesLineBreak_iff (join_eq_or_getLast?_eq h.complete)).mp h.header
  -- each step of `split` now finds the part that the layout names
  rw [split, h.cutLines_eq]
  simp only [hopened, closeAt?_append hregion hclosing, hheader, flatten_cutLines,
    String.ofList_toList, bind, Option.bind, pure]

end IsLaidOut

/-- The parts that `split` finds satisfy `IsLaidOut`. -/
theorem isLaidOut_of_split {toml : Bool} {text : String} {parts : FrontMatter}
    (h : split toml text = some parts) :
    ∃ lines closing, IsLaidOut toml text parts lines closing := by
  obtain ⟨fence, region, closing, body, hlines, hopened, hclosing, hregion, hparts⟩ :=
    split_eq_some h
  obtain ⟨hlast, hfence⟩ := opened?_eq_some hopened
  have hopening : parts.fence = String.ofList fence := congrArg FrontMatter.fence hparts
  have hheader : parts.header = String.ofList (dropLineBreak region.flatten) :=
    congrArg FrontMatter.header hparts
  have hbody : parts.body = String.ofList body.flatten := congrArg FrontMatter.body hparts
  have hjoin : (String.join (region.map String.ofList)).toList = region.flatten := by
    simp [String.toList_join, List.flatMap_map]
  -- the lines of the region come before the closing one, so they are complete
  have hbefore : ∀ line ∈ fence :: region, IsLine (String.ofList line) :=
    isLine_of_cutLines hlines (List.cons_ne_nil closing body)
  have hcomplete : ∀ line ∈ region.map String.ofList, IsLine line := by
    rw [List.forall_mem_map]
    exact (List.forall_mem_cons.mp hbefore).2
  refine ⟨region.map String.ofList, String.ofList closing, isEnabled_of_opened? hopened, ?_, ?_,
    hcomplete, ?_, ?_, ?_⟩
  · apply String.toList_injective
    rw [← flatten_cutLines text.toList, hlines, hopening, hbody]
    simp [hjoin]
  · rw [hopening]
    exact mem_fenceLines_of_isFence hfence hlast
  · intro line hline
    rw [← isFence_iff_mem_fenceLines (hcomplete line hline)]
    obtain ⟨chars, hchars, rfl⟩ := List.mem_map.mp hline
    rw [String.toList_ofList, hregion chars hchars]
    exact Bool.false_ne_true
  · by_cases hend : closing.getLast? = some '\n'
    · exact Or.inl (mem_fenceLines_of_isFence hclosing hend)
    -- only the last line of a document may lack a line feed, so there is no body after it
    · refine Or.inr ⟨?_, mem_endLines_of_isFence hclosing hend⟩
      have hnone : body = [] := by
        by_contra hsome
        have hsplit : cutLines text.toList = (fence :: (region ++ [closing])) ++ body := by
          rw [hlines]
          simp
        exact hend (getLast?_of_cutLines hsplit hsome closing (by simp))
      rw [hbody, hnone]
      rfl
  · rw [losesLineBreak_iff (join_eq_or_getLast?_eq hcomplete), hjoin, hheader,
      String.toList_ofList]

/-- The parts that `split` finds satisfy `IsFenced`. -/
theorem fenced_of_split {toml : Bool} {raw : String} {parts : FrontMatter}
    (h : split toml raw = some parts) : ∃ region closing, IsFenced raw parts region closing := by
  obtain ⟨lines, closing, hlaid⟩ := isLaidOut_of_split h
  refine ⟨String.join lines, closing, hlaid.text_eq, hlaid.opening, ?_, hlaid.closing⟩
  rcases hlaid.header with hempty | hbreak | ⟨hbreak, -⟩
  · exact Or.inl hempty
  · exact Or.inr (Or.inr hbreak)
  · exact Or.inr (Or.inl hbreak)

/-- A text satisfies `IsLaidOut` in at most one way. -/
theorem IsLaidOut.unique {toml : Bool} {text : String} {parts others : FrontMatter}
    {lines otherLines : List String} {closing otherClosing : String}
    (h : IsLaidOut toml text parts lines closing)
    (hother : IsLaidOut toml text others otherLines otherClosing) :
    parts = others ∧ lines = otherLines ∧ closing = otherClosing := by
  have hparts : parts = others := Option.some.inj (h.split_eq.symm.trans hother.split_eq)
  subst hparts
  have hcut := h.cutLines_eq.symm.trans hother.cutLines_eq
  have hmiddle : lines.map String.toList ++ [closing.toList] =
      otherLines.map String.toList ++ [otherClosing.toList] := by
    -- the first fence and the lines of the body are the same
    rw [← List.append_left_inj (cutLines parts.body.toList)]
    simpa using hcut
  obtain ⟨hlines, hclosing⟩ := List.append_inj' hmiddle rfl
  have hinjective : Function.Injective String.toList := fun _ _ heq => String.toList_injective heq
  exact ⟨rfl, List.map_injective_iff.mpr hinjective hlines,
    hinjective (List.cons.inj hclosing).1⟩

end FrontMatter

/-- `FrontMatter.split` is correct and complete for the grammar `FrontMatter.IsLaidOut`: it gives
`parts` if and only if `text` is laid out as these, and `none` if `text` is laid out in no way. The
parts, the lines between the fences and the closing fence are unique. -/
theorem split_eq_some_iff_isLaidOut (toml : Bool) (text : String) :
    (∀ parts, FrontMatter.split toml text = some parts ↔
      ∃ lines closing, FrontMatter.IsLaidOut toml text parts lines closing) ∧
    (FrontMatter.split toml text = none ↔
      ¬ ∃ parts lines closing, FrontMatter.IsLaidOut toml text parts lines closing) ∧
    ∀ parts others lines otherLines closing otherClosing,
      FrontMatter.IsLaidOut toml text parts lines closing →
      FrontMatter.IsLaidOut toml text others otherLines otherClosing →
        parts = others ∧ lines = otherLines ∧ closing = otherClosing := by
  have hiff : ∀ parts, FrontMatter.split toml text = some parts ↔
      ∃ lines closing, FrontMatter.IsLaidOut toml text parts lines closing := by
    intro parts
    constructor
    · exact FrontMatter.isLaidOut_of_split
    · rintro ⟨lines, closing, hlaid⟩
      exact hlaid.split_eq
  refine ⟨hiff, ?_, fun _ _ _ _ _ _ h hother => h.unique hother⟩
  rw [Option.eq_none_iff_forall_ne_some, not_exists]
  exact forall_congr' fun parts => not_congr (hiff parts)

/-- `+++` is an ordinary line of a YAML region, and the last fence needs no line feed. -/
theorem split_eq_some_other_fence :
    let parts : FrontMatter := ⟨.yaml, "---\r\n", "a: 1\n+++", ""⟩
    FrontMatter.IsLaidOut true "---\r\na: 1\n+++\n---" parts ["a: 1\n", "+++\n"] "---" ∧
      FrontMatter.split true "---\r\na: 1\n+++\n---" = some parts := by
  intro parts
  have hlaid :
      FrontMatter.IsLaidOut true "---\r\na: 1\n+++\n---" parts ["a: 1\n", "+++\n"] "---" :=
    { enabled := Or.inl rfl
      text_eq := by decide
      opening := by decide
      complete := by
        rw [List.forall_mem_cons, List.forall_mem_singleton]
        exact ⟨⟨"a: 1", by decide, by decide⟩, ⟨"+++", by decide, by decide⟩⟩
      not_fence := by decide
      closing := by decide
      header := Or.inr (Or.inr (by decide)) }
  exact ⟨hlaid, ((split_eq_some_iff_isLaidOut true _).1 parts).mpr ⟨_, _, hlaid⟩⟩

end MarkdownTemplate
