import MarkdownTemplate.Header

/-!
# The last declaration of a name

The entries of a mapping declare names one after another. Different keys can declare one name: keys
of any kind become text first, and one question mark at the end of this text is not part of the
name. Of all entries whose keys declare a name, the last one counts, with its description and its
question mark.

* `IsKeyOf`: which keys declare a name;
* `IsLastDeclaration`: what the last entry that declares a name says of it;
* `Header.find?_declareAll`: what is declared after the entries of a mapping;
* `Value.withTags`: a value in tags;
* `lastDeclarations_ofValue`: the header of a value.
-/

namespace MarkdownTemplate

/-! ### Keys -/

/-- `key` ends in a question mark. -/
def EndsInQuestion (key : String) : Prop :=
  ['?'] <:+ key.toList

instance (key : String) : Decidable (EndsInQuestion key) :=
  inferInstanceAs (Decidable (['?'] <:+ key.toList))

/-- `key` is `name` without a question mark at its end, or `name` with one added. -/
def IsKeyOf (key name : String) : Prop :=
  (key = name ∧ ¬ EndsInQuestion key) ∨ key = name ++ "?"

/-- `declared` comes from the last entry with `IsKeyOf` for `name`: its value as text is the
description, and its question mark makes the variable optional. -/
def IsLastDeclaration (entries : List (Value × Value)) (name : String) (declared : Entry) : Prop :=
  ∃ before key description after, entries = before ++ (key, description) :: after ∧
    IsKeyOf key.toText name ∧ (∀ later ∈ after, ¬ IsKeyOf later.1.toText name) ∧
      declared = ⟨description.toText, decide (EndsInQuestion key.toText)⟩

theorem endsInQuestion_append (name : String) : EndsInQuestion (name ++ "?") := by
  rw [EndsInQuestion, String.toList_append]
  exact List.suffix_append _ _

theorem exists_append_of_endsInQuestion {key : String} (h : EndsInQuestion key) :
    ∃ name, key = name ++ "?" := by
  obtain ⟨name, hname⟩ := h
  refine ⟨String.ofList name, ?_⟩
  apply String.toList_injective
  rw [String.toList_append, String.toList_ofList, ← hname]
  rfl

namespace Header

/-- `splitKey` cuts one question mark off the end. -/
theorem splitKey_append (name : String) : splitKey (name ++ "?") = (name, true) := by
  have hlist : (name ++ "?").toList = name.toList ++ ['?'] := String.toList_append
  rw [splitKey, hlist, if_pos List.getLast?_concat, List.dropLast_concat, String.ofList_toList]

/-- `splitKey` keeps a key without a question mark at its end. -/
theorem splitKey_of_not_endsInQuestion {key : String} (h : ¬ EndsInQuestion key) :
    splitKey key = (key, false) := by
  refine if_neg fun hlast => h ?_
  obtain ⟨init, hinit⟩ := List.getLast?_eq_some_iff.mp hlast
  exact ⟨init, hinit.symm⟩

theorem splitKey_snd (key : String) : (splitKey key).2 = decide (EndsInQuestion key) := by
  by_cases h : EndsInQuestion key
  · obtain ⟨name, rfl⟩ := exists_append_of_endsInQuestion h
    rw [splitKey_append, decide_eq_true h]
  · rw [splitKey_of_not_endsInQuestion h, decide_eq_false h]

theorem splitKey_fst_eq_iff {key name : String} : (splitKey key).1 = name ↔ IsKeyOf key name := by
  by_cases h : EndsInQuestion key
  · obtain ⟨other, rfl⟩ := exists_append_of_endsInQuestion h
    rw [splitKey_append, IsKeyOf]
    simp [h]
  · have hnot : key ≠ name ++ "?" := by
      rintro rfl
      exact h (endsInQuestion_append name)
    rw [splitKey_of_not_endsInQuestion h, IsKeyOf]
    simp [h, hnot]

/-- `declare` sets the declaration of one name and keeps the others. -/
theorem find?_declare (header : Header) (key description name : String) :
    (header.declare key description).find? name =
      if (splitKey key).1 = name then some ⟨description, decide (EndsInQuestion key)⟩
      else header.find? name := by
  rw [declare, ← splitKey_snd]
  exact find?_insert header _ _ _

/-! ### Entries -/

/-- The declaration of an entry of a mapping. -/
def entryOf (entry : Value × Value) : Entry :=
  ⟨entry.2.toText, decide (EndsInQuestion entry.1.toText)⟩

/-- `declareAll` keeps the last declaration of each name. -/
theorem find?_declareAll (header : Header) (entries : List (Value × Value)) (name : String) :
    (header.declareAll entries).find? name =
      ((entries.reverse.find? fun entry => (splitKey entry.1.toText).1 = name).map entryOf).or
        (header.find? name) := by
  induction entries generalizing header with
  | nil => rfl
  | cons entry entries ih =>
    -- the first entry is the last one to be looked at, and the header comes after it
    rw [declareAll, ih, find?_declare, List.reverse_cons, List.find?_append, Option.map_or,
      Option.or_assoc, List.find?_singleton]
    congr 1
    by_cases hname : (splitKey entry.1.toText).1 = name
    · simp [hname, entryOf]
    · simp [hname]

theorem find?_declareAll_eq_some_iff {entries : List (Value × Value)} {name : String}
    {declared : Entry} :
    (empty.declareAll entries).find? name = some declared ↔
      IsLastDeclaration entries name declared := by
  rw [find?_declareAll, find?_empty, Option.or_none, Option.map_eq_some_iff]
  simp only [List.find?_eq_some_iff_append, decide_eq_true_eq, splitKey_fst_eq_iff]
  constructor
  · rintro ⟨⟨key, description⟩, ⟨hkey, after, before, hentries, hafter⟩, rfl⟩
    refine ⟨before.reverse, key, description, after.reverse, ?_, hkey, ?_, rfl⟩
    · rw [← List.reverse_reverse entries, hentries]
      simp
    · intro later hlater
      simpa [splitKey_fst_eq_iff] using hafter later (List.mem_reverse.mp hlater)
  · rintro ⟨before, key, description, after, rfl, hkey, hafter, rfl⟩
    refine ⟨(key, description), ⟨hkey, after.reverse, before.reverse, by simp, ?_⟩, rfl⟩
    intro later hlater
    simpa [splitKey_fst_eq_iff] using hafter later (List.mem_reverse.mp hlater)

theorem declares_declareAll_iff {entries : List (Value × Value)} {name : String} :
    (empty.declareAll entries).declares name = true ↔
      ∃ entry ∈ entries, IsKeyOf entry.1.toText name := by
  rw [declares, find?_declareAll, find?_empty, Option.or_none, Option.isSome_map,
    List.find?_isSome]
  simp [splitKey_fst_eq_iff]

end Header

/-! ### Tags -/

namespace Value

/-- `value` inside `tags`, the outermost first. -/
def withTags (tags : List String) (value : Value) : Value :=
  tags.foldr tagged value

@[simp]
theorem untagged_withTags (tags : List String) (value : Value) :
    (value.withTags tags).untagged = value.untagged := by
  induction tags with
  | nil => rfl
  | cons tag tags ih => rwa [withTags, List.foldr_cons, untagged, ← withTags]

/-- Every value is its `untagged` value inside tags. -/
theorem exists_eq_withTags (value : Value) : ∃ tags, value = value.untagged.withTags tags := by
  fun_induction untagged value with
  | case1 tag value ih =>
    obtain ⟨tags, hvalue⟩ := ih
    exact ⟨tag :: tags, by rw [withTags, List.foldr_cons, ← withTags, ← hvalue]⟩
  | case2 value hvalue => exact ⟨[], rfl⟩

end Value

/-- `Header.ofValue` of `null` is empty. Of a mapping, it declares the names with `IsKeyOf` for a
key, and `IsLastDeclaration` fixes the description and the optional flag of each name together. Both
may be inside any number of tags, and every other value is an error. -/
theorem lastDeclarations_ofValue (value : Value) :
    (∀ tags, value = Value.null.withTags tags → Header.ofValue value = .ok .empty) ∧
    (∀ tags entries, value = (Value.mapping entries).withTags tags →
      ∃ header, Header.ofValue value = .ok header ∧
        (∀ name, header.declares name = true ↔
          ∃ entry ∈ entries, IsKeyOf entry.1.toText name) ∧
        ∀ name declared, header.find? name = some declared ↔
          IsLastDeclaration entries name declared) ∧
    ((∃ error, Header.ofValue value = .error error) ↔
      (∀ tags, value ≠ Value.null.withTags tags) ∧
        ∀ tags entries, value ≠ (Value.mapping entries).withTags tags) := by
  refine ⟨?_, ?_, ?_⟩
  · rintro tags rfl
    rw [Header.ofValue, Value.untagged_withTags]
    rfl
  · rintro tags entries rfl
    refine ⟨Header.empty.declareAll entries, ?_, fun name => Header.declares_declareAll_iff,
      fun name declared => Header.find?_declareAll_eq_some_iff⟩
    rw [Header.ofValue, Value.untagged_withTags]
    rfl
  · constructor
    · rintro ⟨error, herror⟩
      constructor
      · rintro tags rfl
        rw [Header.ofValue, Value.untagged_withTags] at herror
        exact absurd herror (by simp [Value.untagged])
      · rintro tags entries rfl
        rw [Header.ofValue, Value.untagged_withTags] at herror
        exact absurd herror (by simp [Value.untagged])
    -- every value is its untagged value in tags, so the other two branches are excluded
    · rintro ⟨hnull, hmapping⟩
      obtain ⟨tags, hvalue⟩ := value.exists_eq_withTags
      rw [Header.ofValue]
      split
      · rename_i heq
        exact absurd (heq ▸ hvalue) (hnull tags)
      · rename_i entries heq
        exact absurd (heq ▸ hvalue) (hmapping tags entries)
      · exact ⟨_, rfl⟩

/-- The number one and its text are one name, of which the later entry counts, and of two question
marks one belongs to the name. -/
example : ((Header.empty.declareAll
    [(.string "1?", .string "text"), (.number (.integer 1), .null),
      (.string "a??", .bool true)]).toList) =
    [("1", ⟨"", false⟩), ("a?", ⟨"true", true⟩)] := by
  decide +kernel

end MarkdownTemplate
