import MarkdownTemplate.Proofs.Diagnostic.OneLine
import MarkdownTemplate.Proofs.Marker.Spelling
import MarkdownTemplate.Proofs.Template.HeaderRecognition

/-!
# Places of diagnostics

A diagnostic of a compiled document shows what it is about: its place in the document covers either
the header that could not be read or the opening marker that has no closing marker. The markers are
found in the body, so their places are moved behind what comes before the body.

* `Diagnostic.ReportsHeader` and `Diagnostic.ReportsBlock`: what a diagnostic of either kind shows;
* `reportsBlock_of_mem_markers`: a marker of a body in the document that ends in this body;
* `diagnostics_compile`: the diagnostics of a compiled document.
-/

namespace MarkdownTemplate

namespace Diagnostic

/-- `diagnostic` is about the header, and its span covers `parts.header`. -/
structure ReportsHeader (diagnostic : Diagnostic) (raw : String) (parts : FrontMatter) : Prop where
  /-- The kind. -/
  kind_eq : diagnostic.kind = .malformedHeader
  /-- The place covers the header. -/
  slice_eq : diagnostic.span.bind (·.slice? raw) = some parts.header

/-- `diagnostic` is about the opening marker `marker`, and `span` covers this in `raw`, at `start`
or behind it. -/
structure ReportsBlock (diagnostic : Diagnostic) (raw : String) (start : Nat) (marker : Marker)
    (span : Span) : Prop where
  /-- The kind. -/
  kind_eq : diagnostic.kind = .unclosedBlock
  /-- The message quotes the marker. -/
  message_eq : diagnostic.message =
    "block `" ++ marker.text ++ "` is never closed and was kept as text"
  /-- The place. -/
  span_eq : diagnostic.span = some span
  /-- The place covers the marker. -/
  slice_eq : span.slice? raw = some marker.text
  /-- The place lies in the body. -/
  start_le : start ≤ span.start
  /-- The place is not empty. -/
  start_lt_stop : span.start < span.stop
  /-- The place ends in the document. -/
  stop_le : span.stop ≤ byteLength raw.toList
  /-- The marker is an opening one. -/
  marker_kind : marker.kind = .opening
  /-- The marker has a name. -/
  name_ne : marker.name ≠ ""
  /-- The name has name characters only. -/
  name_chars : ∀ c ∈ marker.name.toList, isNameChar c = true

/-- The span of `first` ends before that of `second` starts. -/
def Precedes (first second : Diagnostic) : Prop :=
  ∃ before after, first.span = some before ∧ second.span = some after ∧ before.stop ≤ after.start

end Diagnostic

/-- The text of a marker whose name has name characters only is on one line. -/
theorem Marker.isOneLine_text {marker : Marker}
    (h : ∀ c ∈ marker.name.toList, isNameChar c = true) : IsOneLine marker.text := by
  have hname : IsOneLine marker.name := fun hfeed => absurd (h '\n' hfeed) (by decide)
  have hsign : IsOneLine marker.kind.sign := by
    cases marker.kind <;> decide
  have hquestion : IsOneLine (if marker.isQuestion then "?" else "") := by
    cases marker.isQuestion <;> decide
  have hinside := (hsign.append hname).append hquestion
  rw [Marker.text_eq, braced]
  exact IsOneLine.append (by decide) ((IsOneLine.append (by decide) hinside).append (by decide))

/-- `unclosedBlock` about a marker of `body` satisfies `ReportsBlock` in a document that ends with
`body`. -/
theorem reportsBlock_of_mem_markers {body : String} {found : PlacedMarker}
    (hfound : found ∈ markers body) (hopens : found.1.opensBlock = true) (front : String) :
    let start := byteLength front.toList
    (Diagnostic.unclosedBlock found.1.text (found.2.shift start)).ReportsBlock (front ++ body)
      start found.1 (found.2.shift start) := by
  intro start
  obtain ⟨hsize, hstop⟩ := markers_bounds hfound
  obtain ⟨hkind, hname⟩ := Marker.opensBlock_iff.mp hopens
  refine ⟨rfl, rfl, rfl, ?_, ?_, ?_, ?_, hkind, hname, isNameChar_of_mem_markers hfound⟩
  · rw [Span.slice?_shift]
    exact slice?_of_mem_markers hfound
  · exact Nat.le_add_left ..
  · exact Nat.add_lt_add_right hsize start
  · rw [String.toList_append, byteLength_append, Nat.add_comm]
    exact Nat.add_le_add_right hstop start

namespace Template

section OfParts

variable {toml : Bool} {raw : String} {parts : FrontMatter}

/-- `malformedHeader` with `headerSpan` satisfies `ReportsHeader`. -/
theorem reportsHeader_malformedHeader (hsplit : FrontMatter.split toml raw = some parts)
    (error : Error) :
    (Diagnostic.malformedHeader error parts.headerSpan).ReportsHeader raw parts := by
  obtain ⟨region, closing, hfenced⟩ := FrontMatter.fenced_of_split hsplit
  exact ⟨rfl, hfenced.slice?_headerSpan⟩

variable (recovery : Recovery) (id : Option String) (header : Header)

/-- The diagnostics of `ofParts` are those of the body, shifted behind the header. -/
theorem diagnostics_ofParts :
    (ofParts recovery id raw parts header).diagnostics =
      ((markers parts.body).filter (isUnpaired (blockPairs (markers parts.body)))).map
        fun opening => .unclosedBlock opening.1.text
          (opening.2.shift (ofParts recovery id raw parts header).bodyStart) := by
  rw [ofParts, diagnostics_ofString, List.map_map]
  rfl

/-- Every diagnostic of `ofParts` is about an opening marker of the body. -/
theorem exists_marker_of_mem_diagnostics {diagnostic : Diagnostic}
    (h : diagnostic ∈ (ofParts recovery id raw parts header).diagnostics) :
    ∃ opening ∈ markers parts.body, opening.1.opensBlock = true ∧
      diagnostic = .unclosedBlock opening.1.text
        (opening.2.shift (ofParts recovery id raw parts header).bodyStart) := by
  rw [diagnostics_ofParts] at h
  obtain ⟨opening, hopening, rfl⟩ := List.mem_map.mp h
  obtain ⟨hmarker, hunpaired⟩ := List.mem_filter.mp hopening
  exact ⟨opening, hmarker, (isUnpaired_iff.mp hunpaired).1, rfl⟩

theorem reportsBlock_of_mem_diagnostics (hsplit : FrontMatter.split toml raw = some parts)
    {diagnostic : Diagnostic}
    (h : diagnostic ∈ (ofParts recovery id raw parts header).diagnostics) :
    ∃ marker span,
      diagnostic.ReportsBlock raw (ofParts recovery id raw parts header).bodyStart marker span := by
  obtain ⟨region, closing, hfenced⟩ := FrontMatter.fenced_of_split hsplit
  obtain ⟨opening, hopening, hopens, rfl⟩ := exists_marker_of_mem_diagnostics _ _ _ h
  have hreports := reportsBlock_of_mem_markers hopening hopens (parts.fence ++ region ++ closing)
  have hstart : (ofParts recovery id raw parts header).bodyStart =
      byteLength (parts.fence ++ region ++ closing).toList := hfenced.byteLength_front
  rw [← hfenced.raw_eq, ← hstart] at hreports
  exact ⟨_, _, hreports⟩

/-- The diagnostics of `ofParts` are sorted by `Diagnostic.Precedes`. -/
theorem diagnostics_pairwise_precedes :
    (ofParts recovery id raw parts header).diagnostics.Pairwise Diagnostic.Precedes := by
  rw [diagnostics_ofParts, List.pairwise_map]
  -- all places are moved alike, so they stay apart
  refine ((markers_apart parts.body).filter _).imp ?_
  intro first second hapart
  exact ⟨_, _, rfl, rfl, Nat.add_le_add_right hapart _⟩

end OfParts

end Template

/-- `template.diagnostics` is either one diagnostic with `ReportsHeader`, or a list of diagnostics
with `ReportsBlock` sorted by `Precedes`. All are of one kind, and `display` shows each on one line.
-/
theorem diagnostics_compile (options : Options) (id : Option String) (raw : String) :
    let template := Template.compile options id raw
    ((∃ parts diagnostic, FrontMatter.split options.tomlHeaders raw = some parts ∧
        template.diagnostics = [diagnostic] ∧ diagnostic.ReportsHeader raw parts) ∨
      (∀ diagnostic ∈ template.diagnostics, ∃ marker span,
          diagnostic.ReportsBlock raw template.bodyStart marker span) ∧
        template.diagnostics.Pairwise Diagnostic.Precedes) ∧
    (∀ first ∈ template.diagnostics, ∀ second ∈ template.diagnostics, first.kind = second.kind) ∧
    ∀ diagnostic ∈ template.diagnostics, IsOneLine diagnostic.display := by
  intro template
  rcases Template.compile_cases options id raw with
    ⟨-, hcompile⟩ | ⟨parts, error, hsplit, -, hcompile⟩ | ⟨parts, header, hsplit, -, hcompile⟩
  -- without fences there is nothing to report
  · rw [show template = _ from hcompile, Template.verbatim]
    exact ⟨Or.inr ⟨by simp, List.Pairwise.nil⟩, by simp, by simp⟩
  -- a region that is no header is all that is reported, as no marker is looked for
  · rw [show template = _ from hcompile, Template.verbatim]
    refine ⟨Or.inl ⟨parts, _, hsplit, rfl, Template.reportsHeader_malformedHeader hsplit error⟩,
      by simp, ?_⟩
    rw [List.forall_mem_singleton]
    exact Diagnostic.isOneLine_display_malformedHeader error _
  -- a header that is read leaves only the blocks of the body to report
  · rw [show template = _ from hcompile]
    refine ⟨Or.inr ⟨?_, Template.diagnostics_pairwise_precedes _ _ _⟩, ?_, ?_⟩
    · intro diagnostic hdiagnostic
      exact Template.reportsBlock_of_mem_diagnostics _ _ _ hsplit hdiagnostic
    · intro first hfirst second hsecond
      obtain ⟨-, -, -, rfl⟩ := Template.exists_marker_of_mem_diagnostics _ _ _ hfirst
      obtain ⟨-, -, -, rfl⟩ := Template.exists_marker_of_mem_diagnostics _ _ _ hsecond
      rfl
    · intro diagnostic hdiagnostic
      obtain ⟨opening, hopening, -, rfl⟩ :=
        Template.exists_marker_of_mem_diagnostics _ _ _ hdiagnostic
      exact Diagnostic.isOneLine_display_unclosedBlock
        (Marker.isOneLine_text (isNameChar_of_mem_markers hopening)) _

/-- Places count bytes, behind a header with line breaks of two characters and a letter of two
bytes. -/
example :
    (Template.compile {} none "---\r\na: 1\r\n---\r\né#{?b}").diagnostics.map (·.span) =
      [some ⟨18, 23⟩] := by
  decide +kernel

end MarkdownTemplate
