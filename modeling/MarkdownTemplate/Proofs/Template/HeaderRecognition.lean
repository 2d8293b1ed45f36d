import MarkdownTemplate.Proofs.Body.Reading
import MarkdownTemplate.Proofs.FrontMatter.Grammar
import MarkdownTemplate.Template

/-!
# Recognition of headers

A header is recognised as a whole or not at all. If the region between the fences reads to a value
that declares variables, the document is cut there. Otherwise all of it is text, as if there were no
fences, and nothing that was read of the region is left.

* `Template.compile_cases`: the three ways in which a document is compiled;
* `Template.IsCut` and `Template.IsVerbatim`: what a template with and without a header is;
* `recognition_compile`: which of them a compiled document is.
-/

namespace MarkdownTemplate

/-! ### Declarations -/

/-- `value` is `null` or a mapping, under any number of tags. -/
def Value.IsDeclaration (value : Value) : Prop :=
  value.untagged = .null ∨ ∃ entries, value.untagged = .mapping entries

theorem Header.ofValue_isOk_iff {value : Value} :
    (∃ header, ofValue value = .ok header) ↔ value.IsDeclaration := by
  rw [ofValue, Value.IsDeclaration]
  split
  · rename_i hnull
    exact ⟨fun _ => Or.inl hnull, fun _ => ⟨empty, rfl⟩⟩
  · rename_i entries hmapping
    exact ⟨fun _ => Or.inr ⟨entries, hmapping⟩, fun _ => ⟨empty.declareAll entries, rfl⟩⟩
  · rename_i hnull hmapping
    constructor
    · rintro ⟨header, hok⟩
      exact absurd hok (by simp)
    · rintro (h | ⟨entries, h⟩)
      · exact absurd h hnull
      · exact absurd h (hmapping entries)

/-- `Header.parse` succeeds if and only if `readValue` gives a value with `IsDeclaration`. -/
theorem Header.parse_isOk_iff {format : Format} {text : String} :
    (∃ header, parse format text = .ok header) ↔
      ∃ value, readValue format text = .ok value ∧ value.IsDeclaration := by
  unfold parse Error.chainResult
  cases hread : readValue format text with
  | error error => simp [Except.mapError, bind, Except.bind]
  | ok value => simpa [Except.mapError, bind, Except.bind] using ofValue_isOk_iff

/-! ### Cut documents -/

namespace FrontMatter

/-- The place of the header: behind the opening fence, as long as `parts.header`. -/
def headerSpan (parts : FrontMatter) : Span :=
  let start := byteLength parts.fence.toList
  ⟨start, start + byteLength parts.header.toList⟩

namespace IsFenced

variable {raw : String} {parts : FrontMatter} {region closing : String}

/-- `parts.header` is a prefix of `region`. -/
theorem exists_region_eq (h : IsFenced raw parts region closing) :
    ∃ rest, region = parts.header ++ rest := by
  rcases h.header with ⟨hregion, hheader⟩ | hregion | hregion
  · exact ⟨"", by rw [hregion, hheader]; rfl⟩
  · exact ⟨"\n", hregion⟩
  · exact ⟨"\r\n", hregion⟩

/-- `headerSpan` covers `parts.header` in `raw`. -/
theorem slice?_headerSpan (h : IsFenced raw parts region closing) :
    parts.headerSpan.slice? raw = some parts.header := by
  obtain ⟨rest, hregion⟩ := h.exists_region_eq
  have hraw : raw = String.ofList (parts.fence.toList ++
      (parts.header.toList ++ (rest ++ closing ++ parts.body).toList)) := by
    apply String.toList_injective
    conv_lhs => rw [h.raw_eq, hregion]
    simp
  rw [headerSpan, hraw, Span.slice?_append, String.ofList_toList]

/-- The body starts behind the two fences and `region`. -/
theorem byteLength_front (h : IsFenced raw parts region closing) :
    byteLength raw.toList - byteLength parts.body.toList =
      byteLength (parts.fence ++ region ++ closing).toList := by
  conv_lhs => rw [h.raw_eq, String.toList_append, byteLength_append]
  exact Nat.add_sub_cancel ..

end IsFenced

end FrontMatter

/-! ### Compiled documents -/

namespace Template

/-- The template of a document without header: `raw` is its body, and nothing is declared. -/
def verbatim (id : Option String) (raw : String) (diagnostics : List Diagnostic) : Template :=
  ⟨id, raw, raw, false, .empty, Node.pushText [] raw, [], diagnostics⟩

/-- The template of a document with the header `header`. -/
def ofParts (recovery : Recovery) (id : Option String) (raw : String) (parts : FrontMatter)
    (header : Header) : Template :=
  let parsed := ParsedBody.ofString recovery header parts.body
  let start := byteLength raw.toList - byteLength parts.body.toList
  ⟨id, raw, parts.body, true, parsed.header, parsed.nodes, parsed.vars,
    parsed.diagnostics.map (·.shift start)⟩

/-- The cases of `compile`: `raw` has no fences, or `Header.parse` fails on the region, or it gives
a header. -/
theorem compile_cases (options : Options) (id : Option String) (raw : String) :
    (FrontMatter.split options.tomlHeaders raw = none ∧
        compile options id raw = verbatim id raw []) ∨
      (∃ parts error, FrontMatter.split options.tomlHeaders raw = some parts ∧
        Header.parse parts.format parts.header = .error error ∧
        compile options id raw = verbatim id raw [.malformedHeader error parts.headerSpan]) ∨
      ∃ parts header, FrontMatter.split options.tomlHeaders raw = some parts ∧
        Header.parse parts.format parts.header = .ok header ∧
        compile options id raw = ofParts options.recovery id raw parts header := by
  rw [compile, Document.ofString]
  cases hsplit : FrontMatter.split options.tomlHeaders raw with
  | none => exact Or.inl ⟨rfl, rfl⟩
  | some parts =>
    right
    cases hparse : Header.parse parts.format parts.header with
    | error error => exact Or.inl ⟨parts, error, rfl, hparse, by simp only [hparse]; rfl⟩
    | ok header => exact Or.inr ⟨parts, header, rfl, hparse, by simp only [hparse]; rfl⟩

/-- The template has the body of `parts`, and before it the fences and the region. -/
structure IsCut (template : Template) (raw : String) (parts : FrontMatter) : Prop where
  /-- The document. -/
  raw_eq : template.raw = raw
  /-- The body. -/
  body_eq : template.body = parts.body
  /-- The text before the body. -/
  front : ∃ region closing, FrontMatter.IsFenced raw parts region closing ∧
    Span.slice? ⟨0, template.bodyStart⟩ raw = some (parts.fence ++ region ++ closing)
  /-- The diagnostics are not about the header. -/
  diagnostics : ∀ diagnostic ∈ template.diagnostics, diagnostic.kind ≠ .malformedHeader

/-- The template is all text: it declares nothing and renders to `raw`, whatever the values. -/
structure IsVerbatim (template : Template) (raw : String) : Prop where
  /-- The document. -/
  raw_eq : template.raw = raw
  /-- All of the document is body. -/
  body_eq : template.body = raw
  /-- Nothing comes before the body. -/
  bodyStart_eq : template.bodyStart = 0
  /-- Nothing is declared. -/
  header_eq : template.header = .empty
  /-- Nothing is in use. -/
  vars_eq : template.vars = []
  /-- No values are expected. -/
  schema_eq : template.schema = ⟨[], []⟩
  /-- The document is one text, unless it is empty. -/
  nodes_eq : template.nodes = if raw = "" then [] else [.text raw]
  /-- The diagnostics are not about blocks. -/
  diagnostics : ∀ diagnostic ∈ template.diagnostics, diagnostic.kind ≠ .unclosedBlock
  /-- All values give the document itself. -/
  render_eq : ∀ {α : Type} [ValueSource α] (values : α), template.render values = raw

theorem isVerbatim_verbatim (id : Option String) (raw : String) {diagnostics : List Diagnostic}
    (h : ∀ diagnostic ∈ diagnostics, diagnostic.kind ≠ .unclosedBlock) :
    (verbatim id raw diagnostics).IsVerbatim raw where
  raw_eq := rfl
  body_eq := rfl
  bodyStart_eq := Nat.sub_self _
  header_eq := rfl
  vars_eq := rfl
  schema_eq := rfl
  nodes_eq := rfl
  diagnostics := h
  render_eq := by
    intro α _ values
    rw [Template.render, MarkdownTemplate.render, verbatim, renderAll_pushText, renderAll,
      String.empty_append]

theorem isCut_ofParts {toml : Bool} {raw : String} {parts : FrontMatter}
    (hsplit : FrontMatter.split toml raw = some parts) (recovery : Recovery)
    (id : Option String) (header : Header) :
    (ofParts recovery id raw parts header).IsCut raw parts := by
  obtain ⟨region, closing, hfenced⟩ := FrontMatter.fenced_of_split hsplit
  have hslice : Span.slice? ⟨0, (ofParts recovery id raw parts header).bodyStart⟩ raw =
      some (parts.fence ++ region ++ closing) := by
    have hraw : raw = String.ofList ([] ++ ((parts.fence ++ region ++ closing).toList ++
        parts.body.toList)) := by
      rw [List.nil_append, ← String.toList_append, String.ofList_toList]
      exact hfenced.raw_eq
    have hcover := Span.slice?_append [] (parts.fence ++ region ++ closing).toList
      parts.body.toList
    rwa [← hraw, String.ofList_toList, byteLength_nil, Nat.zero_add, ← hfenced.byteLength_front]
      at hcover
  refine ⟨rfl, rfl, ⟨region, closing, hfenced, hslice⟩, ?_⟩
  -- the diagnostics of a body are all about blocks
  intro diagnostic hdiagnostic
  obtain ⟨unshifted, hunclosed, rfl⟩ := List.mem_map.mp hdiagnostic
  rw [diagnostics_ofString] at hunclosed
  obtain ⟨opening, -, rfl⟩ := List.mem_map.mp hunclosed
  exact DiagnosticKind.noConfusion

end Template

/-- A document has a header if and only if `FrontMatter.split` succeeds and `Header.readValue` gives
a value with `Value.IsDeclaration` for the region. With a header, the template satisfies
`Template.IsCut`. Without one it satisfies `Template.IsVerbatim`, and has one diagnostic if `split`
succeeds, or else none. -/
theorem recognition_compile (options : Options) (id : Option String) (raw : String) :
    let template := Template.compile options id raw
    let parts? := FrontMatter.split options.tomlHeaders raw
    (template.hasHeader = true ↔ ∃ parts value, parts? = some parts ∧
      Header.readValue parts.format parts.header = .ok value ∧ value.IsDeclaration) ∧
    (template.hasHeader = true → ∃ parts, parts? = some parts ∧ template.IsCut raw parts) ∧
    (template.hasHeader = false → template.IsVerbatim raw ∧
      template.diagnostics.length = if parts?.isSome then 1 else 0) := by
  intro template parts?
  rcases Template.compile_cases options id raw with
    ⟨hsplit, hcompile⟩ | ⟨parts, error, hsplit, hparse, hcompile⟩ |
    ⟨parts, header, hsplit, hparse, hcompile⟩
  -- without fences there is no region to read
  · have hhas : template.hasHeader = false := congrArg Template.hasHeader hcompile
    refine ⟨?_, ?_, fun _ => ⟨?_, ?_⟩⟩
    · simp [hhas, parts?, hsplit]
    · simp [hhas]
    · rw [show template = _ from hcompile]
      exact Template.isVerbatim_verbatim id raw (by simp)
    · simp [template, hcompile, Template.verbatim, parts?, hsplit]
  -- a region that is no header is left in the text, and reported
  · have hhas : template.hasHeader = false := congrArg Template.hasHeader hcompile
    have hnone : ¬ ∃ value, Header.readValue parts.format parts.header = .ok value ∧
        value.IsDeclaration := by
      rw [← Header.parse_isOk_iff, hparse]
      simp
    refine ⟨?_, ?_, fun _ => ⟨?_, ?_⟩⟩
    · simpa [hhas, parts?, hsplit] using hnone
    · simp [hhas]
    · rw [show template = _ from hcompile]
      exact Template.isVerbatim_verbatim id raw (by simp [Diagnostic.malformedHeader])
    · simp [template, hcompile, Template.verbatim, parts?, hsplit]
  -- a region that is a header is cut off
  · have hhas : template.hasHeader = true := congrArg Template.hasHeader hcompile
    have hsome : ∃ value, Header.readValue parts.format parts.header = .ok value ∧
        value.IsDeclaration := Header.parse_isOk_iff.mp ⟨header, hparse⟩
    refine ⟨?_, fun _ => ⟨parts, hsplit, ?_⟩, ?_⟩
    · simpa [hhas, parts?, hsplit] using hsome
    · rw [show template = _ from hcompile]
      exact Template.isCut_ofParts hsplit options.recovery id header
    · simp [hhas]

/-- A sequence declares nothing. Its fences stay text, and so does the open block after them, which
is not reported. -/
example :
    (Template.compile {} none "---\n- a\n---\n#{?b}").diagnostics.map Diagnostic.display =
      ["header ignored: header is not a mapping; found: sequence (at 4..7)"] := by
  decide +kernel

end MarkdownTemplate
