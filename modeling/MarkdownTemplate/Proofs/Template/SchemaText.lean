import MarkdownTemplate.Proofs.Json.RoundTrip
import MarkdownTemplate.Proofs.Template.SchemaView

/-!
# Schemas as JSON texts

The text of a schema holds all of it: a reader gets the properties back in their order, those that
share a name included, and the required names. As a JSON value a schema has one member for each
name, sorted, which shows the last property of that name.

* `Schema.read_compact_toJson`: the text is read back;
* `Schema.toJson_injective` and `Schema.compact_toJson_inj`: the text is that of one schema only;
* `Schema.exists_canonical_toJson`: the JSON value, whatever names are repeated;
* `Schema.text_ofVariables`: the text and the JSON value of the schema for any variables.
-/

namespace MarkdownTemplate

namespace Schema

variable {first second : Schema}

/-- `toJson` is nested three deep and holds no numbers, so it is within `Json.depthLimit`. -/
theorem fitsIn_toJson (schema : Schema) : schema.toJson.FitsIn Json.depthLimit := by
  have hproperties : Json.MembersFitIn (schema.properties.map Property.toMember) 125 := by
    rw [Json.membersFitIn_iff, List.forall_mem_map]
    intro property _
    simp [Property.toMember, Json.FitsIn, Json.MembersFitIn]
  have hrequired : Json.ItemsFitIn (schema.required.map .string) 125 := by
    rw [Json.itemsFitIn_iff, List.forall_mem_map]
    intro name _
    trivial
  simp [toJson, Json.depthLimit, Json.FitsIn, Json.MembersFitIn, hproperties, hrequired]

/-- `Json.read` inverts `Json.compact` on the value of a schema. -/
theorem read_compact_toJson (schema : Schema) :
    Json.read schema.toJson.compact = .ok schema.toJson :=
  Json.read_compact schema.fitsIn_toJson

theorem toJson_injective : Function.Injective toJson := by
  intro first second h
  simp only [toJson, Json.object.injEq, Json.array.injEq, List.cons.injEq, Prod.mk.injEq,
    true_and, and_true] at h
  obtain ⟨hproperties, hrequired⟩ := h
  have htoMember : Function.Injective Property.toMember := by
    intro property other hmember
    simp only [Property.toMember, Prod.mk.injEq, Json.object.injEq, Json.string.injEq,
      List.cons.injEq, true_and, and_true] at hmember
    cases property
    cases other
    simpa using hmember
  have hstring : Function.Injective Json.string := fun name other hname => by simpa using hname
  cases first
  cases second
  rw [Schema.mk.injEq]
  exact ⟨htoMember.list_map hproperties, hstring.list_map hrequired⟩

/-- Schemas with the same `compact` text are equal. -/
theorem compact_toJson_inj : first.toJson.compact = second.toJson.compact ↔ first = second := by
  refine ⟨fun htext => ?_, fun h => by rw [h]⟩
  have hread := read_compact_toJson first
  rw [htext, read_compact_toJson second, Except.ok.injEq] at hread
  exact toJson_injective hread.symm

/-- The canonical value of a schema has sorted members, and of properties with one name the last. -/
theorem exists_canonical_toJson (schema : Schema) :
    ∃ members,
      schema.toJson.canonical = .object [("properties", .object members),
        ("required", .array (schema.required.map .string)), ("type", .string "object")] ∧
      Json.NamesIncrease members ∧
      ∀ name, (members.find? fun member => member.1 == name) =
        (schema.properties.reverse.find? fun property => property.name == name).map
          canonicalMember := by
  refine ⟨Json.sortMembers (schema.properties.map canonicalMember), ?_,
    Json.namesIncrease_sortMembers _, fun name => ?_⟩
  · have hrequired : Json.canonicalItems (schema.required.map .string) =
        schema.required.map .string := by
      rw [Json.canonicalItems_eq_map, List.map_map]
      exact List.map_congr_left fun name _ => rfl
    -- the order in which the members of a schema end up
    have hfirst : "properties" < "type" := by decide
    have hlast : "required" < "type" := by decide
    have hbetween : ¬ "required" < "properties" := by decide
    simp [toJson, Json.canonical, Json.canonicalMembers, canonicalMembers_toMember, hrequired,
      Json.sortMembers, Json.insertMember, hfirst, hlast, hbetween]
  · rw [Json.find?_sortMembers_eq_find?_reverse, ← List.map_reverse, List.find?_map]
    rfl

/-- The compact text of a schema determines the schema, also when `vars` repeats names. `Json.read`
gives back the object with all its properties in their order, and two schemas with the same text are
equal. In `Json.canonical`, the members are sorted, and of properties with one name the last is
kept. -/
theorem text_ofVariables (vars : List Variable) :
    let schema := ofVariables vars
    (Json.read schema.toJson.compact = .ok (.object [("type", .string "object"),
      ("properties", .object (schema.properties.map fun property => (property.name,
        .object [("type", .string "string"), ("description", .string property.description)]))),
      ("required", .array (schema.required.map .string))])) ∧
    (∀ first second : Schema, first.toJson.compact = second.toJson.compact ↔ first = second) ∧
    ∃ members,
      schema.toJson.canonical = .object [("properties", .object members),
        ("required", .array (schema.required.map .string)), ("type", .string "object")] ∧
      Json.NamesIncrease members ∧
      ∀ name, (members.find? fun member => member.1 == name) =
        (schema.properties.reverse.find? fun property => property.name == name).map
          fun property => (property.name, .object [("description", .string property.description),
            ("type", .string "string")]) := by
  intro schema
  exact ⟨schema.read_compact_toJson, fun _ _ => compact_toJson_inj, schema.exists_canonical_toJson⟩

end Schema

end MarkdownTemplate
