import MarkdownTemplate.Proofs.Body.Variables
import MarkdownTemplate.Proofs.Json.Members
import MarkdownTemplate.Proofs.Template.HeaderRecognition

/-!
# Schemas as views of variables

A schema shows the variables of a template in three ways: as a list of properties, of which the
first of a name is found; as a list of required names; and as a JSON value, in which the last member
of a name would stay. The three agree because the variables of a template have distinct names.

* `Template.variablesAgree_compile`: the variables of a compiled document are those in use;
* `Schema.property?_ofVariables` and `Schema.isRequired_ofVariables_iff`: what is found under names;
* `Schema.exists_members_toJson`: the JSON value has the same properties;
* `schema_compile`: the schema of a compiled document.
-/

namespace MarkdownTemplate

/-- The description of `target` in a schema. A blank one is replaced by one made of the name. -/
def Variable.shownDescription (target : Variable) : String :=
  if target.description.toList.any fun c => !isBlank c then target.description
  else "Variable: " ++ target.name

theorem Property.ofVariable_eq (target : Variable) :
    Property.ofVariable target = ⟨target.name, target.shownDescription⟩ := by
  have hblank : allBlank target.description =
      !target.description.toList.any fun c => !isBlank c := by
    rw [allBlank, List.not_any_eq_all_not]
    simp only [Bool.not_not]
  rw [ofVariable, Variable.shownDescription, hblank]
  cases target.description.toList.any fun c => !isBlank c with
  | true => rfl
  | false => rfl

namespace Schema

variable {vars : List Variable}

theorem properties_ofVariables (vars : List Variable) :
    (ofVariables vars).properties = vars.map fun target => ⟨target.name, target.shownDescription⟩ :=
  List.map_congr_left fun target _ => Property.ofVariable_eq target

theorem map_name_properties (vars : List Variable) :
    (ofVariables vars).properties.map Property.name = vars.map Variable.name := by
  rw [properties_ofVariables, List.map_map]
  rfl

/-- `property?` finds the first variable of the name. -/
theorem property?_ofVariables (vars : List Variable) (name : String) :
    (ofVariables vars).property? name =
      (vars.find? fun target => target.name == name).map fun target =>
        ⟨name, target.shownDescription⟩ := by
  rw [property?, properties_ofVariables, List.find?_map]
  refine Option.map_congr fun target htarget => ?_
  have hname : target.name = name := by simpa using List.find?_some htarget
  rw [hname]

/-- `isRequired` holds of the names of variables that are not optional. -/
theorem isRequired_ofVariables_iff (hnodup : (vars.map Variable.name).Nodup) {name : String} :
    (ofVariables vars).isRequired name = true ↔
      ∃ target, (vars.find? fun known => known.name == name) = some target ∧
        target.isOptional = false := by
  rw [isRequired, List.contains_iff_mem, ofVariables, List.mem_map]
  refine exists_congr fun target => ?_
  rw [find?_key_eq_some_iff hnodup, List.mem_filter, Bool.not_eq_true']
  constructor
  · rintro ⟨⟨htarget, hoptional⟩, hname⟩
    exact ⟨⟨htarget, hname⟩, hoptional⟩
  · rintro ⟨⟨htarget, hname⟩, hoptional⟩
    exact ⟨⟨htarget, hoptional⟩, hname⟩

/-- `required` is a sublist of the names of `properties`. -/
theorem required_sublist (vars : List Variable) :
    (ofVariables vars).required.Sublist ((ofVariables vars).properties.map Property.name) := by
  rw [map_name_properties]
  exact List.filter_sublist.map Variable.name

/-! ### The JSON value -/

/-- A property as a member of `Json.canonical`. -/
def canonicalMember (property : Property) : String × Json :=
  (property.name,
    .object [("description", .string property.description), ("type", .string "string")])

theorem canonical_toMember (property : Property) :
    (property.toMember.1, property.toMember.2.canonical) = canonicalMember property := by
  -- the only pair of members whose order matters
  have hbefore : "description" < "type" := by decide
  simp only [Property.toMember, canonicalMember, Json.canonical, Json.canonicalMembers,
    Json.sortMembers, List.foldl_cons, List.foldl_nil, Json.insertMember, if_pos hbefore]

theorem canonicalMembers_toMember (properties : List Property) :
    Json.canonicalMembers (properties.map Property.toMember) = properties.map canonicalMember := by
  rw [Json.canonicalMembers_eq_map, List.map_map]
  exact List.map_congr_left fun property _ => canonical_toMember property

/-- Under `properties`, the canonical value has one member for each property. -/
theorem exists_members_toJson {schema : Schema}
    (hnodup : (schema.properties.map Property.name).Nodup) :
    ∃ members, schema.toJson.canonical.member? "properties" = some (.object members) ∧
      members.length = schema.properties.length ∧
      ∀ name, (members.find? fun member => member.1 == name) =
        (schema.property? name).map canonicalMember := by
  have hnames : ((schema.properties.map canonicalMember).map Prod.fst).Nodup := by
    rw [List.map_map]
    exact hnodup
  -- names are distinct, so sorting moves the members and loses none
  refine ⟨Json.sortMembers (schema.properties.map canonicalMember), ?_, ?_, ?_⟩
  · rw [toJson, Json.member?_canonical_object (by simp), ← canonicalMembers_toMember]
    rfl
  · rw [(Json.sortMembers_perm hnames).length_eq, List.length_map]
  · intro name
    rw [Json.find?_sortMembers hnames, List.find?_map]
    rfl

end Schema

namespace Template

theorem variablesAgree_verbatim (id : Option String) (raw : String)
    (diagnostics : List Diagnostic) :
    VariablesAgree (verbatim id raw diagnostics).vars
      (· ∈ Node.uses (verbatim id raw diagnostics).nodes) := by
  -- the nodes are one text or none
  have hunused : ∀ use, use ∉ Node.uses (Node.pushText [] raw) := by
    intro use huse
    rw [← Node.push_text, Node.mem_uses_push] at huse
    simp [Node.uses, Node.usesIn] at huse
  constructor
  · exact List.nodup_nil
  · exact fun use huse => absurd huse (hunused use)
  · exact fun target htarget => absurd htarget List.not_mem_nil

/-- `Template.vars` agrees with the uses in `Template.nodes`. -/
theorem variablesAgree_compile (options : Options) (id : Option String) (raw : String) :
    VariablesAgree (compile options id raw).vars
      (· ∈ Node.uses (compile options id raw).nodes) := by
  rcases compile_cases options id raw with
    ⟨-, hcompile⟩ | ⟨parts, error, -, -, hcompile⟩ | ⟨parts, header, -, -, hcompile⟩
  · rw [hcompile]
    exact variablesAgree_verbatim id raw _
  · rw [hcompile]
    exact variablesAgree_verbatim id raw _
  · rw [hcompile]
    exact variablesAgree_ofString options.recovery header parts.body

end Template

/-- `template.schema` mirrors `template.vars`. Its properties are the variables in their order, with
`shownDescription`, and a name has the same property as variable. `isRequired` holds of the
variables that are not optional, and `required` lists them without repetition in the order of the
properties. The canonical JSON value has as many properties as there are variables, and under each
name the same description. -/
theorem schema_compile (options : Options) (id : Option String) (raw : String) :
    let template := Template.compile options id raw
    let schema := template.schema
    (schema.properties = template.vars.map fun target =>
      ⟨target.name, target.shownDescription⟩) ∧
    (∀ name, schema.property? name = (template.findVariable? name).map fun target =>
      ⟨name, target.shownDescription⟩) ∧
    (∀ name, schema.isRequired name = true ↔
      ∃ target, template.findVariable? name = some target ∧ target.isOptional = false) ∧
    schema.required.Nodup ∧
    schema.required.Sublist (schema.properties.map Property.name) ∧
    ∃ members, schema.toJson.canonical.member? "properties" = some (.object members) ∧
      members.length = template.vars.length ∧
      ∀ name, (members.find? fun member => member.1 == name) =
        (schema.property? name).map fun property => (property.name,
          .object [("description", .string property.description), ("type", .string "string")]) := by
  intro template schema
  have hnodup : (template.vars.map Variable.name).Nodup :=
    (Template.variablesAgree_compile options id raw).nodup
  have hproperties : (schema.properties.map Property.name).Nodup := by
    rwa [show schema = .ofVariables template.vars from rfl, Schema.map_name_properties]
  have hlength : schema.properties.length = template.vars.length := List.length_map _
  have hsublist : schema.required.Sublist (schema.properties.map Property.name) :=
    Schema.required_sublist template.vars
  have hrequired : ∀ name, schema.isRequired name = true ↔
      ∃ target, template.findVariable? name = some target ∧ target.isOptional = false :=
    fun name => Schema.isRequired_ofVariables_iff hnodup
  refine ⟨Schema.properties_ofVariables template.vars, Schema.property?_ofVariables template.vars,
    hrequired, hproperties.sublist hsublist, hsublist, ?_⟩
  -- the JSON value is counted against the properties, and these against the variables
  rw [← hlength]
  exact Schema.exists_members_toJson hproperties

end MarkdownTemplate
