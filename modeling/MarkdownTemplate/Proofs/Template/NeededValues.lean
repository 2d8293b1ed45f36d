import MarkdownTemplate.Proofs.Node.Visited
import MarkdownTemplate.Proofs.Template.SchemaView

/-!
# Values that templates need

Rendering a template looks values up by name as it goes: a block that is dropped hides the names
used in it. Checking a template does not look at blocks: a value is missing if some use of its
variable, at whatever depth, may not do without one. The two fit together because the variables of a
template are exactly those that its nodes use.

* `render_congr_compile`: a compiled document is rendered from the values that are looked up;
* `Template.Needs` and `Template.mem_missing_iff`: what is missing is what some use needs;
* `check_compile`: checking a compiled document makes sure that no marker of a variable that is not
  optional is written back.
-/

namespace MarkdownTemplate

theorem VariableUse.IsOf.name_eq {use : VariableUse} {target : Variable} (h : use.IsOf target) :
    use.name = target.name := by
  cases use with
  | reference other marker => rw [name, h.1]
  | control name => exact h

namespace Template

/-! ### Values that are looked up -/

/-- The names that rendering looks up in `values`. -/
def reach {α : Type} [ValueSource α] (template : Template) (values : α) : List String :=
  Node.reach (ValueSource.value? values) template.nodes

variable {template : Template}

theorem render_congr {α β : Type} [ValueSource α] [ValueSource β] {first : α} {second : β}
    (h : AgreeOn (template.reach first) (ValueSource.value? first) (ValueSource.value? second)) :
    template.render first = template.render second := by
  rw [Template.render, Template.render, MarkdownTemplate.render, MarkdownTemplate.render]
  exact renderAll_congr h

/-- `reach` has names of variables only. -/
theorem reach_subset (hvars : VariablesAgree template.vars (· ∈ Node.uses template.nodes))
    {α : Type} [ValueSource α] (values : α) :
    template.reach values ⊆ template.vars.map Variable.name := by
  intro name hname
  obtain ⟨use, huse, rfl⟩ := Node.exists_use_of_mem_reach hname
  obtain ⟨target, htarget, hof⟩ := hvars.of_use use huse
  exact List.mem_map.mpr ⟨target, htarget, hof.name_eq.symm⟩

end Template

/-- Rendering depends only on the values of the names in `template.reach`, which are names of
`template.vars`: two sources of any kinds that agree on `reach` render alike. So the value of a name
outside `reach` never matters, nor does that of a name that is no property of `template.schema`. -/
theorem render_congr_compile (options : Options) (id : Option String) (raw : String) :
    let template := Template.compile options id raw
    (∀ {α β : Type} [ValueSource α] [ValueSource β] (first : α) (second : β),
      AgreeOn (template.reach first) (ValueSource.value? first) (ValueSource.value? second) →
        template.render first = template.render second) ∧
    (∀ {α : Type} [ValueSource α] (values : α),
      template.reach values ⊆ template.vars.map Variable.name) ∧
    (∀ {α β : Type} [ValueSource α] [ValueSource β] (first : α) (second : β) (hidden : String),
      hidden ∉ template.reach first →
      (∀ name, name ≠ hidden → ValueSource.value? first name = ValueSource.value? second name) →
        template.render first = template.render second) ∧
    ∀ {α β : Type} [ValueSource α] [ValueSource β] (first : α) (second : β),
      AgreeOn (template.schema.properties.map Property.name) (ValueSource.value? first)
        (ValueSource.value? second) →
        template.render first = template.render second := by
  intro template
  have hreach : ∀ {α : Type} [ValueSource α] (values : α),
      template.reach values ⊆ template.vars.map Variable.name :=
    Template.reach_subset (Template.variablesAgree_compile options id raw)
  refine ⟨fun first second h => Template.render_congr h, hreach, ?_, ?_⟩
  · intro α β _ _ first second hidden hhidden hothers
    -- the names that are looked up are all among those on which the sources agree
    apply Template.render_congr
    intro name hname
    apply hothers
    rintro rfl
    exact hhidden hname
  · intro α β _ _ first second h
    rw [Template.schema, Schema.map_name_properties] at h
    exact Template.render_congr (h.of_subset (hreach first))

/-- The block is dropped, so the sources may differ on `c`. -/
theorem render_congr_compile_dropped_block :
    let template :=
      Template.compile {} none "---\na: A\n---\n#{?b}#{c}#{/}[#{a}]"
    let first := [("a", "1"), ("b", " "), ("c", "2")]
    let second := #[("b", " "), ("a", "1")]
    AgreeOn (template.reach first) (ValueSource.value? first) (ValueSource.value? second) ∧
      template.render first = template.render second := by
  intro template first second
  have hagree :
      AgreeOn (template.reach first) (ValueSource.value? first) (ValueSource.value? second) := by
    unfold AgreeOn
    decide +kernel
  exact ⟨hagree, (render_congr_compile {} none _).1 first second hagree⟩

namespace Template

/-! ### Values that are required -/

/-- `template.nodes` use a variable of this name that is not optional, at any depth. -/
def Needs (template : Template) (name : String) : Prop :=
  (∃ target marker, .reference target marker ∈ Node.uses template.nodes ∧
    target.name = name ∧ target.isOptional = false) ∨
  (.control name ∈ Node.uses template.nodes ∧
    ∃ target ∈ template.vars, target.name = name ∧ target.isOptional = false)

variable {template : Template} {α : Type} [ValueSource α] {values : α} {name : String}

/-- `Needs` holds of the names of the variables that are not optional. -/
theorem needs_iff (hvars : VariablesAgree template.vars (· ∈ Node.uses template.nodes)) :
    template.Needs name ↔
      ∃ target ∈ template.vars, target.name = name ∧ target.isOptional = false := by
  constructor
  · rintro (⟨target, marker, huse, hname, hoptional⟩ | ⟨-, hcontrol⟩)
    -- a reference holds its variable, and that is the one of its name
    · obtain ⟨known, hknown, rfl, -⟩ := hvars.of_use _ huse
      exact ⟨target, hknown, hname, hoptional⟩
    · exact hcontrol
  · rintro ⟨target, htarget, rfl, hoptional⟩
    -- the variable is there because of some use, whatever its own question mark says
    obtain ⟨use, huse, hof⟩ := hvars.exists_use target htarget
    cases use with
    | reference other marker =>
      obtain ⟨rfl, -⟩ := hof
      exact Or.inl ⟨other, marker, huse, rfl, hoptional⟩
    | control control =>
      obtain rfl := hof
      exact Or.inr ⟨huse, target, htarget, rfl, hoptional⟩

/-- `missing` lists the names of the variables that are not optional and have no value. -/
theorem missing_eq (template : Template) (values : α) :
    template.missing values =
      (template.vars.filter fun target => !target.isOptional &&
        (ValueSource.value? values target.name).isNone).map Variable.name := by
  rw [missing, schema, Schema.ofVariables, List.filter_map, List.filter_filter]
  congr 2
  funext target
  simp [ValueSource.contains, Bool.and_comm]

/-- `missing` has the names with `Needs` that have no value. -/
theorem mem_missing_iff (hvars : VariablesAgree template.vars (· ∈ Node.uses template.nodes)) :
    name ∈ template.missing values ↔
      template.Needs name ∧ ValueSource.value? values name = none := by
  rw [needs_iff hvars, missing_eq, List.mem_map]
  constructor
  · rintro ⟨target, htarget, rfl⟩
    obtain ⟨hmem, hlacks⟩ := List.mem_filter.mp htarget
    rw [Bool.and_eq_true, Bool.not_eq_true', Option.isNone_iff_eq_none] at hlacks
    exact ⟨⟨target, hmem, rfl, hlacks.1⟩, hlacks.2⟩
  · rintro ⟨⟨target, hmem, rfl, hoptional⟩, hnone⟩
    refine ⟨target, List.mem_filter.mpr ⟨hmem, ?_⟩, rfl⟩
    rw [hoptional, hnone]
    rfl

theorem nodup_missing (hvars : VariablesAgree template.vars (· ∈ Node.uses template.nodes)) :
    (template.missing values).Nodup := by
  rw [missing_eq]
  exact hvars.nodup.sublist (List.filter_sublist.map Variable.name)

theorem check_eq_ok_iff : template.check values = .ok () ↔ template.missing values = [] := by
  unfold check
  split
  · rename_i hnone
    exact ⟨fun _ => hnone, fun _ => rfl⟩
  · rename_i hsome
    exact ⟨fun h => absurd h (by simp), fun h => absurd h hsome⟩

theorem label_compile (options : Options) (id : Option String) (raw : String) :
    (compile options id raw).label = id.getD "<anonymous>" := by
  rcases compile_cases options id raw with
    ⟨-, hcompile⟩ | ⟨parts, error, -, -, hcompile⟩ | ⟨parts, header, -, -, hcompile⟩
  all_goals rw [hcompile]; rfl

/-- The error of `check` shows `label` and `missing`. -/
theorem context_of_check_eq_error {error : Error} (h : template.check values = .error error) :
    error.message = "missing required template values" ∧
      error.context = [(some "template", template.label),
        (some "missing", ", ".intercalate (template.missing values))] := by
  unfold check at h
  split at h
  · exact absurd h (by simp)
  · obtain rfl := Except.error.inj h
    exact ⟨rfl, rfl⟩

/-- The parts that `template` renders to, in their order. -/
def parts (template : Template) (values : α) : List RenderedPart :=
  Node.parts (ValueSource.value? values) template.nodes

theorem render_eq_join_parts (template : Template) (values : α) :
    template.render values =
      String.join ((template.parts values).map RenderedPart.written) := by
  rw [Template.render, MarkdownTemplate.render, parts]
  exact renderAll_eq_join_parts _ template.nodes

/-- A marker of a variable that is not optional is among `parts` only if the template needs its
value and `values` has none. -/
theorem needs_of_marker_mem_parts {target : Variable} {marker : String}
    (h : .marker target marker ∈ template.parts values) (hoptional : target.isOptional = false) :
    template.Needs target.name ∧ ValueSource.value? values target.name = none := by
  obtain ⟨hvisited, hnone⟩ := Node.marker_mem_parts_iff.mp h
  have huse : .reference target marker ∈ Node.uses template.nodes :=
    Node.reference_mem_uses_of_mem_visited hvisited
  exact ⟨Or.inl ⟨target, marker, huse, rfl, hoptional⟩, hnone⟩

end Template

/-- `template.missing` lists the variables that are not optional and have no value, in the order of
`template.vars` and without repetition. These are the names with `template.Needs` that have no
value. `template.check` succeeds if and only if there are none, and otherwise its error names the
template and them. If it succeeds, every marker among `template.parts` is of an optional variable.
-/
theorem check_compile {α : Type} [ValueSource α] (options : Options) (id : Option String)
    (raw : String) (values : α) :
    let template := Template.compile options id raw
    (template.missing values =
        (template.vars.filter fun target =>
          !target.isOptional && (ValueSource.value? values target.name).isNone).map Variable.name ∧
      (template.missing values).Nodup ∧
      ∀ name, name ∈ template.missing values ↔
        template.Needs name ∧ ValueSource.value? values name = none) ∧
    (template.check values = .ok () ↔
      ∀ name, template.Needs name → (ValueSource.value? values name).isSome = true) ∧
    (∀ error, template.check values = .error error →
      error.message = "missing required template values" ∧
      error.context = [(some "template", id.getD "<anonymous>"),
        (some "missing", ", ".intercalate (template.missing values))]) ∧
    template.render values = String.join ((template.parts values).map RenderedPart.written) ∧
    (template.check values = .ok () → ∀ target marker,
      .marker target marker ∈ template.parts values → target.isOptional = true) := by
  intro template
  have hvars : VariablesAgree template.vars (· ∈ Node.uses template.nodes) :=
    Template.variablesAgree_compile options id raw
  have hmissing : ∀ name, name ∈ template.missing values ↔
      template.Needs name ∧ ValueSource.value? values name = none :=
    fun name => Template.mem_missing_iff hvars
  have hcheck : template.check values = .ok () ↔
      ∀ name, template.Needs name → (ValueSource.value? values name).isSome = true := by
    rw [Template.check_eq_ok_iff, List.eq_nil_iff_forall_not_mem]
    refine forall_congr' fun name => ?_
    rw [hmissing, not_and, Option.isSome_iff_ne_none]
  have hlabel : template.label = id.getD "<anonymous>" := Template.label_compile options id raw
  refine ⟨⟨template.missing_eq values, Template.nodup_missing hvars, hmissing⟩, hcheck, ?_,
    template.render_eq_join_parts values, ?_⟩
  · intro error herror
    rw [← hlabel]
    exact Template.context_of_check_eq_error herror
  · intro hok target marker hmarker
    by_contra hrequired
    -- the marker would be that of a needed value that is missing
    obtain ⟨hneeds, hnone⟩ :=
      Template.needs_of_marker_mem_parts hmarker (Bool.eq_false_iff.mpr hrequired)
    have hsome := hcheck.mp hok target.name hneeds
    rw [hnone] at hsome
    exact absurd hsome (by decide)

/-- `#{x}` comes first and makes `x` required, so `#{x?}` does not make it optional. -/
theorem check_compile_question :
    let template := Template.compile {} none "---\nx: X\n---\n#{x} #{x?}"
    let values := [("x", "V")]
    template.check values = .ok () ∧
      ∀ target marker,
        .marker target marker ∈ template.parts values → target.isOptional = true := by
  intro template values
  have hcheck : template.check values = .ok () := by
    rw [Template.check_eq_ok_iff]
    decide +kernel
  exact ⟨hcheck, (check_compile {} none _ values).2.2.2.2 hcheck⟩

end MarkdownTemplate
