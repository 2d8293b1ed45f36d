import Mathlib.Tactic.Ring
import MarkdownTemplate.Error
import MarkdownTemplate.Proofs.Diagnostic.OneLine
import MarkdownTemplate.Proofs.FrontMatter.Grammar

/-!
# The lines of a chain of errors

An error is shown with each link behind the one that it caused, further in by four spaces. The
messages and the values of a link keep that indent when they go over several lines. A key does not:
what follows a line feed in a key stands at the left edge. So the lines of each link are indented by
its depth if and only if no key in the chain, that of the outermost link apart, has a line feed.

* `indented`: a text with an indent before each of its lines;
* `Detail.text` and `Detail.HasOneLineKeys`: a link as it reads on its own, and what its keys need;
* `Error.indented_linkLines` and `Error.length_indented_linkLines`: more indent for all links;
* `Error.cutLines_linkLines`: the lines of the links one by one;
* `Error.indentation_display`: when the lines of a chain are indented by depth.
-/

namespace MarkdownTemplate

/-- `chars` with `indent` in front of each line, also of empty ones. -/
def indented (indent chars : List Char) : List Char :=
  (cutLines chars).flatMap (indent ++ ·)

/-- The indent of a link with `depth` links in front of it. -/
def linkIndent (depth : Nat) : List Char :=
  List.replicate (4 * depth) ' '

theorem lineFeed_not_mem_linkIndent (depth : Nat) : '\n' ∉ linkIndent depth := by
  simp [linkIndent]

theorem linkIndent_add (first second : Nat) :
    linkIndent (first + second) = linkIndent first ++ linkIndent second := by
  rw [linkIndent, Nat.mul_add, List.replicate_add]
  rfl

/-! ### A link as it reads on its own -/

/-- The key of a fact as `display` writes it, or nothing without a key. -/
def keyText : Option String → List Char
  | some key => key.toList ++ [':', ' ']
  | none => []

/-- The facts of `detail` with its message as the first, which has no key. -/
def Detail.facts (detail : Detail) : List (Option String × String) :=
  (none, detail.message) :: detail.context

/-- The text of `detail` alone: its message and its facts, a line feed after each. -/
def Detail.text (detail : Detail) : List Char :=
  detail.facts.flatMap fun fact => keyText fact.1 ++ fact.2.toList ++ ['\n']

/-- No key in `detail` has a line feed. -/
def Detail.HasOneLineKeys (detail : Detail) : Prop :=
  ∀ fact ∈ detail.context, ∀ key ∈ fact.1, IsOneLine key

/-- The number of line feeds in the keys of `facts`. -/
def keyFeeds (facts : List (Option String × String)) : Nat :=
  (facts.map fun fact => (keyText fact.1).count '\n').sum

theorem lineFeed_not_mem_keyText_iff (key? : Option String) :
    '\n' ∉ keyText key? ↔ ∀ key ∈ key?, IsOneLine key := by
  cases key? with
  | none => simp [keyText]
  | some key => simp [keyText, IsOneLine]

theorem Detail.hasOneLineKeys_iff (detail : Detail) :
    detail.HasOneLineKeys ↔ ∀ fact ∈ detail.facts, '\n' ∉ keyText fact.1 := by
  -- the message has no key
  rw [facts, List.forall_mem_cons, HasOneLineKeys]
  simp only [lineFeed_not_mem_keyText_iff]
  simp

theorem Detail.hasOneLineKeys_iff_keyFeeds (detail : Detail) :
    detail.HasOneLineKeys ↔ keyFeeds detail.facts = 0 := by
  rw [hasOneLineKeys_iff, keyFeeds, List.sum_eq_zero_iff_forall_eq_nat, List.forall_mem_map]
  simp only [List.count_eq_zero]

namespace Error

/-! ### Texts with an indent after their line feeds -/

section IndentLines

variable {indent : List Char}

theorem indentLines_cons_of_ne {c : Char} (hc : c ≠ '\n') (chars : List Char) :
    indentLines indent (c :: chars) = c :: indentLines indent chars := by
  rw [indentLines]
  exact hc

theorem indentLines_append (indent first second : List Char) :
    indentLines indent (first ++ second) =
      indentLines indent first ++ indentLines indent second := by
  fun_induction indentLines indent first with
  | case1 => rfl
  | case2 chars ih => simp [indentLines, ih]
  | case3 c chars hc ih => rw [List.cons_append, indentLines_cons_of_ne hc, ih, List.cons_append]

theorem indentLines_of_not_mem {chars : List Char} (h : '\n' ∉ chars) :
    indentLines indent chars = chars := by
  induction chars with
  | nil => rfl
  | cons c chars ih =>
    rw [List.mem_cons, not_or] at h
    rw [indentLines_cons_of_ne (Ne.symm h.1), ih h.2]

@[simp]
theorem indentLines_nil (chars : List Char) : indentLines [] chars = chars := by
  fun_induction indentLines [] chars with
  | case1 => rfl
  | case2 chars ih => simp [ih]
  | case3 c chars hc ih => rw [ih]

/-- Two indents after each line feed are one indent of their joined length. -/
theorem indentLines_indentLines {second : List Char} (hsecond : '\n' ∉ second)
    (first chars : List Char) :
    indentLines first (indentLines second chars) = indentLines (first ++ second) chars := by
  fun_induction indentLines second chars with
  | case1 => rfl
  | case2 chars ih =>
    simp [indentLines, indentLines_append, indentLines_of_not_mem hsecond, ih]
  | case3 c chars hc ih => rw [indentLines_cons_of_ne hc, indentLines_cons_of_ne hc, ih]

theorem length_indentLines (indent chars : List Char) :
    (indentLines indent chars).length = chars.length + indent.length * chars.count '\n' := by
  fun_induction indentLines indent chars with
  | case1 => simp
  | case2 chars ih =>
    simp only [List.length_append, List.length_cons, List.count_cons_self, ih]
    ring
  | case3 c chars hc ih =>
    rw [List.length_cons, ih, List.length_cons, List.count_cons_of_ne hc]
    omega

end IndentLines

end Error

/-! ### The lines of texts that are put together -/

theorem exists_cutLines_eq_cons (chars : List Char) (h : chars ≠ []) :
    ∃ line lines, cutLines chars = line :: lines := by
  refine List.exists_cons_of_ne_nil fun hnil => h ?_
  rw [← flatten_cutLines chars, hnil, List.flatten_nil]

/-- A `front` without line feed becomes part of the first line. -/
theorem cutLines_append_of_not_mem {front chars : List Char} (hfront : '\n' ∉ front)
    (hchars : chars ≠ []) :
    cutLines (front ++ chars) = (cutLines chars).modifyHead (front ++ ·) := by
  obtain ⟨line, lines, hlines⟩ := exists_cutLines_eq_cons chars hchars
  induction front with
  | nil => rw [List.nil_append, hlines]; rfl
  | cons c front ih =>
    rw [List.mem_cons, not_or] at hfront
    rw [List.cons_append, cutLines, ih hfront.2, hlines]
    · rfl
    · exact fun heq => hfront.1 heq.symm

/-- `Error.indentLines` indents all lines of `chars` but the first one. -/
theorem cutLines_indentLines {indent : List Char} (hindent : '\n' ∉ indent)
    (chars rest : List Char) :
    cutLines (indent ++ Error.indentLines indent chars ++ '\n' :: rest) =
      (cutLines (chars ++ ['\n'])).map (indent ++ ·) ++ cutLines rest := by
  fun_induction Error.indentLines indent chars with
  | case1 =>
    rw [List.append_nil, cutLines_append_lineFeed hindent]
    rfl
  | case2 chars ih =>
    have hsplit : indent ++ ('\n' :: indent ++ Error.indentLines indent chars) ++ '\n' :: rest =
        indent ++ '\n' :: (indent ++ Error.indentLines indent chars ++ '\n' :: rest) := by
      simp
    rw [hsplit, cutLines_append_lineFeed hindent, ih]
    rfl
  | case3 c chars hc ih =>
    -- the first line on both sides is compared without `c`, then `c` is put behind its indent
    obtain ⟨first, firsts, hfirst⟩ := exists_cutLines_eq_cons (chars ++ ['\n']) (by simp)
    obtain ⟨second, seconds, hsecond⟩ := exists_cutLines_eq_cons
      (Error.indentLines indent chars ++ '\n' :: rest) (by simp)
    rw [List.append_assoc, cutLines_append_of_not_mem hindent (by simp), hfirst, hsecond,
      List.modifyHead_cons, List.map_cons, List.cons_append, List.cons.injEq,
      List.append_cancel_left_eq] at ih
    have hleft : cutLines (indent ++ c :: Error.indentLines indent chars ++ '\n' :: rest) =
        (indent ++ c :: second) :: seconds := by
      have hfront : '\n' ∉ indent ++ [c] := by simpa using ⟨hindent, Ne.symm hc⟩
      have hsplit : indent ++ c :: Error.indentLines indent chars ++ '\n' :: rest =
          indent ++ [c] ++ (Error.indentLines indent chars ++ '\n' :: rest) := by
        simp
      rw [hsplit, cutLines_append_of_not_mem hfront (by simp), hsecond]
      simp
    have hright : cutLines (c :: chars ++ ['\n']) = (c :: first) :: firsts := by
      have hone : '\n' ∉ [c] := by simpa using Ne.symm hc
      have happend : cutLines ([c] ++ (chars ++ ['\n'])) = _ :=
        cutLines_append_of_not_mem hone (by simp)
      rwa [hfirst] at happend
    rw [hleft, hright, ih.1, ih.2]
    rfl

/-- `cutLines` splits behind a line feed. -/
theorem cutLines_append_lineFeed_cons (chars rest : List Char) :
    cutLines (chars ++ '\n' :: rest) = cutLines (chars ++ ['\n']) ++ cutLines rest := by
  have hnone : '\n' ∉ ([] : List Char) := List.not_mem_nil
  simpa using cutLines_indentLines hnone chars rest

theorem indented_append_lineFeed {indent : List Char} (hindent : '\n' ∉ indent)
    (chars rest : List Char) :
    indented indent (chars ++ '\n' :: rest) =
      indent ++ Error.indentLines indent chars ++ '\n' :: indented indent rest := by
  have hlines := congrArg List.flatten (cutLines_indentLines hindent chars [])
  rw [flatten_cutLines, List.flatten_append, ← List.flatMap_def, cutLines, List.flatten_nil,
    List.append_nil] at hlines
  rw [indented, cutLines_append_lineFeed_cons, List.flatMap_append, ← hlines, indented,
    List.append_assoc, List.singleton_append]

namespace Error

/-! ### The lines of links -/

theorem factLine_eq (indent : List Char) (fact : Option String × String) :
    factLine indent fact =
      indent ++ keyText fact.1 ++ indentLines indent fact.2.toList ++ ['\n'] := by
  obtain ⟨_ | key, value⟩ := fact
  · simp [factLine, keyText]
  · simp [factLine, keyText]

theorem detailLines_eq (indent : List Char) (detail : Detail) :
    detailLines indent detail = detail.facts.flatMap (factLine indent) := by
  rw [detailLines, Detail.facts, List.flatMap_cons, factLine_eq, keyText, List.append_nil]

theorem text_eq (detail : Detail) : detail.text = detail.facts.flatMap (factLine []) := by
  rw [Detail.text]
  congr 1
  funext fact
  rw [factLine_eq, indentLines_nil, List.nil_append]

section Indented

variable {first second : List Char}

/-- `indented` indents the lines of a fact, and also what follows a line feed in its key. -/
theorem indented_factLine (hfirst : '\n' ∉ first) (hsecond : '\n' ∉ second)
    (fact : Option String × String) (rest : List Char) :
    indented first (factLine second fact ++ rest) =
      first ++ second ++ indentLines first (keyText fact.1) ++
        indentLines (first ++ second) fact.2.toList ++ '\n' :: indented first rest := by
  have hline : factLine second fact ++ rest =
      second ++ keyText fact.1 ++ indentLines second fact.2.toList ++ '\n' :: rest := by
    rw [factLine_eq, List.append_assoc, List.singleton_append]
  rw [hline, indented_append_lineFeed hfirst, indentLines_append, indentLines_append,
    indentLines_of_not_mem hsecond, indentLines_indentLines hsecond]
  simp only [List.append_assoc]

/-- `indented` of facts is `factLine` with more indent, if no key has a line feed. -/
theorem indented_facts (hfirst : '\n' ∉ first) (hsecond : '\n' ∉ second)
    {facts : List (Option String × String)} (hkeys : ∀ fact ∈ facts, '\n' ∉ keyText fact.1)
    (rest : List Char) :
    indented first (facts.flatMap (factLine second) ++ rest) =
      facts.flatMap (factLine (first ++ second)) ++ indented first rest := by
  induction facts with
  | nil => rfl
  | cons fact facts ih =>
    rw [List.forall_mem_cons] at hkeys
    rw [List.flatMap_cons, List.append_assoc, indented_factLine hfirst hsecond, ih hkeys.2,
      indentLines_of_not_mem hkeys.1, List.flatMap_cons, factLine_eq]
    simp only [List.append_assoc, List.cons_append, List.nil_append]

/-- Each line feed in a key makes `indented` longer by one indent than `factLine` with both. -/
theorem length_indented_facts (hfirst : '\n' ∉ first) (hsecond : '\n' ∉ second)
    (facts : List (Option String × String)) (rest : List Char) :
    (indented first (facts.flatMap (factLine second) ++ rest)).length =
      (facts.flatMap (factLine (first ++ second))).length + first.length * keyFeeds facts +
        (indented first rest).length := by
  induction facts with
  | nil => simp [keyFeeds]
  | cons fact facts ih =>
    rw [List.flatMap_cons, List.append_assoc, indented_factLine hfirst hsecond, List.flatMap_cons,
      factLine_eq, keyFeeds, List.map_cons, List.sum_cons, ← keyFeeds]
    simp only [List.length_append, List.length_cons, List.length_nil, ih,
      length_indentLines first (keyText fact.1)]
    ring

end Indented

theorem linkLines_cons (depth : Nat) (detail : Detail) (details : List Detail) :
    linkLines depth (detail :: details) =
      detail.facts.flatMap (factLine (linkIndent depth)) ++ linkLines (depth + 1) details := by
  rw [linkLines, detailLines_eq]
  rfl

/-- `indented` of `linkLines` is `linkLines` at a greater depth, if all keys are on one line. -/
theorem indented_linkLines {details : List Detail}
    (hkeys : ∀ detail ∈ details, detail.HasOneLineKeys) (count depth : Nat) :
    indented (linkIndent count) (linkLines depth details) = linkLines (count + depth) details := by
  induction details generalizing depth with
  | nil => rfl
  | cons detail details ih =>
    rw [List.forall_mem_cons] at hkeys
    rw [linkLines_cons, indented_facts (lineFeed_not_mem_linkIndent count)
      (lineFeed_not_mem_linkIndent depth) (detail.hasOneLineKeys_iff.mp hkeys.1), ih hkeys.2,
      linkLines_cons, linkIndent_add, Nat.add_assoc]

theorem length_indented_linkLines (details : List Detail) (count depth : Nat) :
    (indented (linkIndent count) (linkLines depth details)).length =
      (linkLines (count + depth) details).length +
        4 * count * (details.map fun detail => keyFeeds detail.facts).sum := by
  induction details generalizing depth with
  | nil => rfl
  | cons detail details ih =>
    rw [linkLines_cons, length_indented_facts (lineFeed_not_mem_linkIndent count)
      (lineFeed_not_mem_linkIndent depth), ih, linkLines_cons, linkIndent_add, List.map_cons,
      List.sum_cons, List.length_append, Nat.add_assoc count depth 1]
    simp only [linkIndent, List.length_replicate]
    ring

/-- `indented` of `linkLines` is `linkLines` at a greater depth if and only if all keys are on one
line. -/
theorem indented_linkLines_eq_iff {count : Nat} (hcount : 0 < count) (depth : Nat)
    (details : List Detail) :
    linkLines (count + depth) details = indented (linkIndent count) (linkLines depth details) ↔
      ∀ detail ∈ details, detail.HasOneLineKeys := by
  constructor
  · intro heq
    have hlength := length_indented_linkLines details count depth
    rw [← heq, Nat.left_eq_add, Nat.mul_eq_zero, List.sum_eq_zero_iff_forall_eq_nat,
      List.forall_mem_map] at hlength
    intro detail hdetail
    rw [Detail.hasOneLineKeys_iff_keyFeeds]
    exact hlength.resolve_left (by omega) detail hdetail
  · intro hkeys
    exact (indented_linkLines hkeys count depth).symm

/-- The lines of each `Detail.text` with the indent of its link, the first of which has depth
`depth`. -/
def indentedLines (depth : Nat) (details : List Detail) : List (List Char) :=
  (details.zipIdx depth).flatMap fun link =>
    (cutLines link.1.text).map (linkIndent link.2 ++ ·)

theorem indentedLines_cons (depth : Nat) (detail : Detail) (details : List Detail) :
    indentedLines depth (detail :: details) =
      (cutLines detail.text).map (linkIndent depth ++ ·) ++ indentedLines (depth + 1) details := by
  rw [indentedLines, List.zipIdx_cons, List.flatMap_cons]
  rfl

/-- The lines of facts are indented, if the indent does not change the keys. -/
theorem cutLines_facts {indent : List Char} (hindent : '\n' ∉ indent)
    {facts : List (Option String × String)}
    (hkeys : ∀ fact ∈ facts, indentLines indent (keyText fact.1) = keyText fact.1)
    (rest : List Char) :
    cutLines (facts.flatMap (factLine indent) ++ rest) =
      (cutLines (facts.flatMap (factLine []))).map (indent ++ ·) ++ cutLines rest := by
  induction facts with
  | nil => rfl
  | cons fact facts ih =>
    rw [List.forall_mem_cons] at hkeys
    -- a fact is indented as a whole, since the indent does not change its key
    have hline (indent : List Char)
        (hkey : indentLines indent (keyText fact.1) = keyText fact.1) (rest : List Char) :
        factLine indent fact ++ rest =
          indent ++ indentLines indent (keyText fact.1 ++ fact.2.toList) ++ '\n' :: rest := by
      rw [factLine_eq, indentLines_append, hkey]
      simp
    rw [List.flatMap_cons, List.append_assoc, hline indent hkeys.1, cutLines_indentLines hindent,
      ih hkeys.2, List.flatMap_cons, hline [] (indentLines_nil _), List.nil_append,
      indentLines_nil, cutLines_append_lineFeed_cons _ (facts.flatMap (factLine [])),
      List.map_append]
    simp only [List.append_assoc]

theorem cutLines_linkLines {details : List Detail}
    (hkeys : ∀ detail ∈ details, detail.HasOneLineKeys) (depth : Nat) :
    cutLines (linkLines depth details) = indentedLines depth details := by
  induction details generalizing depth with
  | nil => rfl
  | cons detail details ih =>
    rw [List.forall_mem_cons, Detail.hasOneLineKeys_iff] at hkeys
    rw [linkLines_cons, cutLines_facts (lineFeed_not_mem_linkIndent depth)
      fun fact hfact => indentLines_of_not_mem (hkeys.1 fact hfact), ih hkeys.2,
      indentedLines_cons, text_eq]

theorem length_flatten_indentedLines (depth : Nat) (details : List Detail) :
    (indentedLines depth details).flatten.length =
      (linkLines depth details).length +
        ((details.zipIdx depth).map fun link => 4 * link.2 * keyFeeds link.1.facts).sum := by
  induction details generalizing depth with
  | nil => rfl
  | cons detail details ih =>
    have hown := length_indented_facts (lineFeed_not_mem_linkIndent depth) List.not_mem_nil
      detail.facts []
    rw [List.append_nil, List.append_nil, ← text_eq, indented, List.flatMap_def] at hown
    rw [indentedLines_cons, List.flatten_append, List.length_append, ih, hown, linkLines_cons,
      List.zipIdx_cons, List.map_cons, List.sum_cons, List.length_append]
    simp only [linkIndent, List.length_replicate, indented, cutLines, List.flatMap_nil,
      List.length_nil]
    ring

/-- `display` indents the inner error of a chain by `linkIndent` if and only if its keys satisfy
`Detail.HasOneLineKeys`. The lines of an error are `indentedLines` if and only if this holds of the
keys of its causes. Line feeds in keys are the only exception, as `display` writes keys without
indenting them. -/
theorem indentation_display (inner outer : Error) :
    ((inner.chain outer).display.toList =
        outer.display.toList ++ indented (linkIndent outer.links.length) inner.display.toList ↔
      ∀ detail ∈ inner.links, detail.HasOneLineKeys) ∧
    ∀ error : Error,
      cutLines error.display.toList = indentedLines 0 error.links ↔
        ∀ detail ∈ error.causes, detail.HasOneLineKeys := by
  constructor
  · rw [display, display, display, String.toList_ofList, String.toList_ofList,
      String.toList_ofList, links_chain, linkLines_append, List.append_cancel_left_eq,
      Nat.add_comm 0]
    exact indented_linkLines_eq_iff (Nat.succ_pos _) 0 inner.links
  · intro error
    rw [display, String.toList_ofList, links]
    constructor
    · intro heq
      -- the lines are as long together as the text, so no key is left without an indent
      have hlength := length_flatten_indentedLines 0 (error.outermost :: error.causes)
      rw [← heq, flatten_cutLines, Nat.left_eq_add, List.sum_eq_zero_iff_forall_eq_nat,
        List.forall_mem_map, List.zipIdx_cons, List.forall_mem_cons] at hlength
      intro detail hdetail
      rw [← List.zipIdx_map_fst (0 + 1) error.causes] at hdetail
      obtain ⟨link, hlink, rfl⟩ := List.mem_map.mp hdetail
      have hdepth : 0 + 1 ≤ link.2 := (List.mem_zipIdx hlink).1
      have hnone := hlength.2 link hlink
      rw [Nat.mul_eq_zero] at hnone
      exact link.1.hasOneLineKeys_iff_keyFeeds.mpr (hnone.resolve_left (by omega))
    · intro hkeys
      -- the outermost link has no indent, which its keys could break
      rw [linkLines_cons, cutLines_facts (lineFeed_not_mem_linkIndent 0)
        (fun fact _ => indentLines_nil _), cutLines_linkLines hkeys, indentedLines_cons, text_eq]

/-- `b` follows a line feed in a key and is not indented. -/
theorem indentation_display_broken_key :
    let outer := ofMessage "o"
    let inner : Error := ⟨⟨"m", [(some "a\nb", "v")]⟩, []⟩
    let chain := inner.chain outer
    chain.display = "o\n    m\n    a\nb: v\n" ∧
      outer.display.toList ++ indented (linkIndent outer.links.length) inner.display.toList =
        "o\n    m\n    a\n    b: v\n".toList ∧
      cutLines chain.display.toList ≠ indentedLines 0 chain.links := by
  decide +kernel

end Error

end MarkdownTemplate
