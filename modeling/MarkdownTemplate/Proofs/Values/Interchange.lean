import MarkdownTemplate.Proofs.Keys
import MarkdownTemplate.Template

/-!
# Sources that hold the same pairs

Pairs of names and values can be handed over as they stand, in an array, or in a map. A list gives
the first value of a name and a map the one that was inserted last, so they agree if the map is
filled from the last pair to the first. Nothing else about a source matters: rendering and checking
see only what is found under a name.

* `ValueSource.Holds`: the sources that hold a list of pairs;
* `ValueSource.Inserts.value?_foldl`: what is found in a map that is filled pair by pair;
* `ValueSource.Holds.value?_eq`: what is found in a source is the first value of a name;
* `ValueSource.interchangeable_holds`: sources of the same pairs give the same results.
-/

namespace MarkdownTemplate

/-- The first value of `name` in `pairs`. -/
def firstValue? (pairs : List (String × String)) (name : String) : Option String :=
  (pairs.find? fun pair => pair.1 == name).map Prod.snd

namespace ValueSource

/-- The source holds `pairs`: as a list or an array of them, as a map into which they are inserted
from the last to the first, or as a reference to such a source. -/
inductive Holds (pairs : List (String × String)) : {α : Type} → ValueSource α → α → Prop
  /-- The pairs as they stand. -/
  | list : Holds pairs inferInstance pairs
  /-- A growable array of the pairs. -/
  | array (items : Array (String × String)) (h : items.toList = pairs) :
    Holds pairs inferInstance items
  /-- An array of the pairs that has a fixed size. -/
  | vector {size : Nat} (items : Vector (String × String) size) (h : items.toList = pairs) :
    Holds pairs inferInstance items
  /-- A hash map, however names are hashed. -/
  | hashMap (hashing : Hashable String) :
    Holds pairs inferInstance (pairs.reverse.foldl (fun map pair => map.insert pair.1 pair.2)
      (∅ : @Std.HashMap String String _ hashing))
  /-- A map in the order of the names. -/
  | treeMap :
    Holds pairs inferInstance (pairs.reverse.foldl (fun map pair => map.insert pair.1 pair.2)
      (∅ : Std.TreeMap String String))
  /-- The members of a JSON object with the values as strings. -/
  | members :
    Holds pairs inferInstance
      (pairs.reverse.foldl (fun members pair => members.insert pair.1 (Json.string pair.2))
        (∅ : Std.TreeMap String Json))
  /-- A reference to a source that holds the pairs. -/
  | reference {α : Type} {inst : ValueSource α} {source : α} (h : Holds pairs inst source) :
    Holds pairs inferInstance (SourceReference.mk source)

/-- Two sources that no operation of a template can tell apart. -/
structure SameResults {α β : Type} [ValueSource α] [ValueSource β] (first : α) (second : β) :
    Prop where
  /-- The same values are found. -/
  value? : ∀ name, value? first name = value? second name
  /-- The same names have a value. -/
  contains : ∀ name, contains first name = contains second name
  /-- Nodes are rendered alike. -/
  render : ∀ nodes, render nodes first = render nodes second
  /-- Templates are rendered alike. -/
  render_template : ∀ template : Template, template.render first = template.render second
  /-- The same values are missing. -/
  missing : ∀ template : Template, template.missing first = template.missing second
  /-- Templates are checked alike, with the same error if there is one. -/
  check : ∀ template : Template, template.check first = template.check second

/-- Sources with the same `value?` satisfy `SameResults`. -/
theorem SameResults.of_value? {α β : Type} [ValueSource α] [ValueSource β] {first : α} {second : β}
    (h : ∀ name, ValueSource.value? first name = ValueSource.value? second name) :
    SameResults first second := by
  have hcontains : ∀ name, ValueSource.contains first name = ValueSource.contains second name := by
    intro name
    rw [ValueSource.contains, ValueSource.contains, h]
  have hrender : ∀ nodes, MarkdownTemplate.render nodes first =
      MarkdownTemplate.render nodes second := by
    intro nodes
    rw [MarkdownTemplate.render, MarkdownTemplate.render, funext h]
  have hmissing : ∀ template : Template, template.missing first = template.missing second := by
    intro template
    simp only [Template.missing, hcontains]
  constructor
  case value? => exact h
  case contains => exact hcontains
  case render => exact hrender
  case render_template => exact fun template => hrender template.nodes
  case missing => exact hmissing
  case check =>
    intro template
    rw [Template.check, Template.check, hmissing]

/-! ### Maps that are filled pair by pair -/

/-- `insert` sets the value of one name and keeps the others. -/
def Inserts {α : Type} [ValueSource α] (insert : α → String × String → α) : Prop :=
  ∀ map pair name,
    value? (insert map pair) name = if pair.1 = name then some pair.2 else value? map name

/-- Inserting `pairs` one by one leaves the last value of each name. -/
theorem Inserts.value?_foldl {α : Type} [ValueSource α] {insert : α → String × String → α}
    (hinsert : Inserts insert) (map : α) (pairs : List (String × String)) (name : String) :
    value? (pairs.foldl insert map) name =
      (firstValue? pairs.reverse name).or (value? map name) := by
  have hstep (map : α) (pair : String × String) :
      value? (insert map pair) name =
        if pair.1 == name then some pair.2 else value? map name := by
    simp only [hinsert map pair name, beq_iff_eq]
  exact find_foldl_insert (value? · name) hstep map pairs

/-- Inserting `pairs` from the last to the first leaves the `firstValue?` of each name. -/
theorem Inserts.value?_foldl_reverse {α : Type} [ValueSource α] {insert : α → String × String → α}
    (hinsert : Inserts insert) {empty : α} (hempty : ∀ name, value? empty name = none)
    (pairs : List (String × String)) (name : String) :
    value? (pairs.reverse.foldl insert empty) name = firstValue? pairs name := by
  rw [hinsert.value?_foldl, List.reverse_reverse, hempty, Option.or_none]

theorem inserts_hashMap (hashing : Hashable String) :
    Inserts fun (map : @Std.HashMap String String _ hashing) pair => map.insert pair.1 pair.2 := by
  intro map pair name
  simp only [value?, Std.HashMap.getElem?_insert, beq_iff_eq]

theorem inserts_treeMap :
    Inserts fun (map : Std.TreeMap String String) pair => map.insert pair.1 pair.2 := by
  intro map pair name
  simp only [value?, Std.TreeMap.getElem?_insert, Std.LawfulEqCmp.compare_eq_iff_eq]

theorem inserts_members :
    Inserts fun (members : Std.TreeMap String Json) pair =>
      members.insert pair.1 (Json.string pair.2) := by
  intro members pair name
  simp only [value?, Std.TreeMap.getElem?_insert, Std.LawfulEqCmp.compare_eq_iff_eq]
  split
  · rfl
  · rfl

/-! ### Sources of the same pairs -/

variable {pairs : List (String × String)}

theorem Holds.value?_eq {α : Type} {inst : ValueSource α} {source : α}
    (h : Holds pairs inst source) (name : String) :
    value? source name = firstValue? pairs name := by
  induction h with
  | list => rfl
  | array items hitems =>
    rw [← hitems]
    simp [value?, firstValue?, Array.find?_toList]
  | vector items hitems =>
    rw [← hitems]
    simp [value?, firstValue?]
  -- maps are filled from the last pair to the first, so that the first one counts
  | hashMap hashing =>
    exact (inserts_hashMap hashing).value?_foldl_reverse
      (fun _ => Std.HashMap.getElem?_empty) pairs name
  | treeMap =>
    exact inserts_treeMap.value?_foldl_reverse (fun _ => Std.TreeMap.getElem?_emptyc) pairs name
  | members =>
    refine inserts_members.value?_foldl_reverse (fun name => ?_) pairs name
    simp [value?]
  | reference _ ih => exact ih

/-- `firstValue?` does not depend on the order of pairs with distinct names. -/
theorem firstValue?_perm {others : List (String × String)} (hnodup : (pairs.map Prod.fst).Nodup)
    (hperm : pairs.Perm others) (name : String) :
    firstValue? pairs name = firstValue? others name := by
  have hothers : (others.map Prod.fst).Nodup := (hperm.map Prod.fst).nodup_iff.mp hnodup
  rw [firstValue?, firstValue?]
  congr 1
  refine Option.ext fun pair => ?_
  rw [find?_key_eq_some_iff hnodup, find?_key_eq_some_iff hothers, hperm.mem_iff]

/-- Sources that hold the same `pairs` are interchangeable: `value?` is `firstValue? pairs`,
`contains` says whether there is one, and `SameResults` holds of any two of them, whatever their
kinds. The pairs may be permuted if their names are distinct. -/
theorem interchangeable_holds {others : List (String × String)}
    (hpairs : pairs = others ∨ (pairs.map Prod.fst).Nodup ∧ pairs.Perm others)
    {α β : Type} {inst : ValueSource α} {inst' : ValueSource β} {first : α} {second : β}
    (hfirst : Holds pairs inst first) (hsecond : Holds others inst' second) :
    (∀ name, value? first name = firstValue? pairs name) ∧
      (∀ name, contains first name = (value? first name).isSome) ∧
      SameResults first second := by
  refine ⟨hfirst.value?_eq, fun name => rfl, SameResults.of_value? fun name => ?_⟩
  rw [hfirst.value?_eq, hsecond.value?_eq]
  rcases hpairs with rfl | ⟨hnodup, hperm⟩
  · rfl
  · exact firstValue?_perm hnodup hperm name

/-- A JSON object that holds a repeated name, and a reference to a hash map that holds distinct
names in another order. -/
theorem interchangeable_holds_repeated_name :
    let repeated := [("a", "1"), ("b", "2"), ("a", "3")]
    let members := repeated.reverse.foldl
      (fun members pair => members.insert pair.1 (Json.string pair.2)) (∅ : Std.TreeMap String Json)
    let pairs := [("b", "2"), ("a", "1")]
    let others := [("a", "1"), ("b", "2")]
    let map := others.reverse.foldl (fun map pair => map.insert pair.1 pair.2)
      (∅ : Std.HashMap String String)
    (Holds repeated inferInstance repeated ∧ Holds repeated inferInstance members ∧
      value? members "a" = some "1" ∧ SameResults repeated members) ∧
    ((pairs.map Prod.fst).Nodup ∧ pairs.Perm others ∧ Holds pairs inferInstance pairs ∧
      Holds others inferInstance (SourceReference.mk map) ∧
      SameResults pairs (SourceReference.mk map)) := by
  intro repeated members pairs others map
  have hmembers : SameResults repeated members :=
    (interchangeable_holds (Or.inl rfl) .list .members).2.2
  have hmap : Holds others inferInstance map := .hashMap inferInstance
  have hnodup : (pairs.map Prod.fst).Nodup := by decide
  have hperm : pairs.Perm others := List.Perm.swap _ _ _
  have hreference : SameResults pairs (SourceReference.mk map) :=
    (interchangeable_holds (Or.inr ⟨hnodup, hperm⟩) .list (.reference hmap)).2.2
  refine ⟨⟨.list, .members, ?_, hmembers⟩, hnodup, hperm, .list, .reference hmap, hreference⟩
  rw [← hmembers.value? "a"]
  rfl

end ValueSource

end MarkdownTemplate
