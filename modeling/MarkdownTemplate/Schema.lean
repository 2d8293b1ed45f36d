import MarkdownTemplate.Json.Value
import MarkdownTemplate.Node
import MarkdownTemplate.Text.Blank

/-!
# Schemas

The schema of a template lists the values that it expects: a property for each variable and the
names of those that may not be missing. As JSON it is the schema of an object with string
properties.
-/

namespace MarkdownTemplate

/-- A value that a template expects. -/
structure Property where
  /-- The name. -/
  name : String
  /-- What the value is. -/
  description : String
deriving DecidableEq

/-- The values that a template expects. -/
structure Schema where
  /-- The values in the order of their first use. -/
  properties : List Property
  /-- The names of the values that may not be missing. -/
  required : List String
deriving DecidableEq

/-- The property for a variable. A blank description is replaced by one that gives the name. -/
def Property.ofVariable (target : Variable) : Property :=
  if allBlank target.description then ⟨target.name, "Variable: " ++ target.name⟩
  else ⟨target.name, target.description⟩

/-- A property as a member of a JSON object. -/
def Property.toMember (property : Property) : String × Json :=
  (property.name,
    .object [("type", .string "string"), ("description", .string property.description)])

namespace Schema

/-- The schema for variables. -/
def ofVariables (vars : List Variable) : Schema where
  properties := vars.map Property.ofVariable
  required := (vars.filter fun target => !target.isOptional).map Variable.name

/-- The first property of a name. -/
def property? (schema : Schema) (name : String) : Option Property :=
  schema.properties.find? fun property => property.name == name

/-- Whether a value may not be missing. -/
def isRequired (schema : Schema) (name : String) : Bool :=
  schema.required.contains name

/-- The schema as a JSON value, with the properties in their order and names repeated if they are.
-/
def toJson (schema : Schema) : Json :=
  .object [("type", .string "object"),
    ("properties", .object (schema.properties.map Property.toMember)),
    ("required", .array (schema.required.map .string))]

end Schema

end MarkdownTemplate
