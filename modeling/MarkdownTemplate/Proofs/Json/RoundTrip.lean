import MarkdownTemplate.Proofs.Json.StringText

/-!
# Reading compact JSON text

The compact text of a value is read back as that value: the members of objects in their order and
with their repetitions, strings whatever characters they hold. Values with numbers are left out, and
so are collections that are nested deeper than a reader goes.

* `Json.FitsIn`: the values that are read back;
* `Json.readValue_compactChars`: a value that is read back from its text, whatever stands behind it;
* `Json.read_compact`: a text that holds one value.
-/

namespace MarkdownTemplate

namespace Json

mutual

/-- The value has no numbers, and its collections are nested at most `depth` deep. -/
def FitsIn : Json → Nat → Prop
  | number _, _ => False
  | array items, depth => 0 < depth ∧ ItemsFitIn items (depth - 1)
  | object members, depth => 0 < depth ∧ MembersFitIn members (depth - 1)
  | _, _ => True
termination_by structural value => value

/-- `FitsIn` holds of each item. -/
def ItemsFitIn : List Json → Nat → Prop
  | [], _ => True
  | item :: items, depth => item.FitsIn depth ∧ ItemsFitIn items depth
termination_by structural items => items

/-- `FitsIn` holds of the value of each member. -/
def MembersFitIn : List (String × Json) → Nat → Prop
  | [], _ => True
  | (_, value) :: members, depth => value.FitsIn depth ∧ MembersFitIn members depth
termination_by structural members => members

end

theorem itemsFitIn_iff {items : List Json} {depth : Nat} :
    ItemsFitIn items depth ↔ ∀ item ∈ items, item.FitsIn depth := by
  induction items with
  | nil => simp [ItemsFitIn]
  | cons item items ih => rw [ItemsFitIn, ih, List.forall_mem_cons]

theorem membersFitIn_iff {members : List (String × Json)} {depth : Nat} :
    MembersFitIn members depth ↔ ∀ member ∈ members, member.2.FitsIn depth := by
  induction members with
  | nil => simp [MembersFitIn]
  | cons member members ih => rw [MembersFitIn, ih, List.forall_mem_cons]

/-! ### Pieces of a collection -/

/-- The comma in front of a piece of a collection, unless it is the first one. -/
def separator (first : Bool) : List Char :=
  if first then [] else [',']

/-- The pieces of a collection, each with its `separator`, and the character `close`. -/
def piecesText (close : Char) (first : Bool) : List (List Char) → List Char
  | [] => [close]
  | piece :: pieces => separator first ++ piece ++ piecesText close false pieces

theorem joinWith_append_close (close : Char) (pieces : List (List Char)) :
    joinWith ',' pieces ++ [close] = piecesText close true pieces := by
  -- after the first piece, the comma that joins two pieces is the one before the second
  have htail (pieces : List (List Char)) (hne : pieces ≠ []) :
      ',' :: joinWith ',' pieces ++ [close] = piecesText close false pieces := by
    induction pieces with
    | nil => exact absurd rfl hne
    | cons piece pieces ih =>
      cases pieces with
      | nil => simp [joinWith, piecesText, separator]
      | cons second pieces =>
        rw [joinWith, piecesText, ← ih (List.cons_ne_nil _ _)]
        · simp [separator]
        · exact List.cons_ne_nil _ _
  cases pieces with
  | nil => rfl
  | cons piece pieces =>
    cases pieces with
    | nil => simp [joinWith, piecesText, separator]
    | cons second pieces =>
      rw [joinWith, piecesText, ← htail _ (List.cons_ne_nil _ _)]
      · simp [separator]
      · exact List.cons_ne_nil _ _

theorem compactChars_array (items : List Json) :
    (array items).compactChars = '[' :: piecesText ']' true (itemTexts items) := by
  rw [compactChars, ← joinWith_append_close, List.cons_append]

theorem compactChars_object (members : List (String × Json)) :
    (object members).compactChars = '{' :: piecesText '}' true (memberTexts members) := by
  rw [compactChars, ← joinWith_append_close, List.cons_append]

/-! ### Steps of the reader -/

/-- The characters that compact texts without numbers start with. -/
def startChars : List Char := ['n', 't', 'f', '"', '[', '{']

theorem exists_compactChars_eq_cons {value : Json} {depth : Nat} (h : value.FitsIn depth) :
    ∃ c ∈ startChars, ∃ chars, value.compactChars = c :: chars := by
  cases value with
  | null => exact ⟨'n', by decide, _, rfl⟩
  | bool value => cases value <;> exact ⟨_, by decide, _, rfl⟩
  | number value => exact h.elim
  | string value => exact ⟨'"', by decide, _, rfl⟩
  | array items => exact ⟨'[', by decide, _, compactChars_array items⟩
  | object members => exact ⟨'{', by decide, _, compactChars_object members⟩

/-- `Cursor.skipBlank` stops at a character that is not blank. -/
theorem skipBlank_cons {c : Char} (h : c ∉ [' ', '\n', '\t', '\r']) (chars : List Char)
    (position : Position) :
    Cursor.skipBlank ⟨c :: chars, position⟩ = ⟨c :: chars, position⟩ := by
  simp only [List.mem_cons, List.not_mem_nil, or_false, not_or] at h
  simp [Cursor.skipBlank, Cursor.skipWhile, Cursor.skipWhile.go, h]

theorem literal_append (word : List Char) (position : Position) (rest : List Char) :
    Cursor.literal ⟨word ++ rest, position⟩ word = .ok ⟨rest, position.after word⟩ := by
  induction word generalizing position with
  | nil => rfl
  | cons c word ih =>
    rw [List.cons_append, Cursor.literal]
    simp only [Cursor.skip, beq_self_eq_true, if_true]
    exact ih (position.next c)

section Steps

variable {fuel depth : Nat} (position : Position) (rest : List Char)

/-- `readValue` reads `null`, `true` and `false`. -/
theorem readValue_word {value : Json} {c : Char} {word : List Char}
    (h : (c, word, value) ∈ [('n', ['u', 'l', 'l'], null), ('t', ['r', 'u', 'e'], bool true),
      ('f', ['a', 'l', 's', 'e'], bool false)]) :
    readValue (fuel + 1) depth ⟨c :: word ++ rest, position⟩ =
      .ok (value, ⟨rest, position.after (c :: word)⟩) := by
  -- the first character decides which word has to follow
  have hword : readValue (fuel + 1) depth ⟨c :: (word ++ rest), position⟩ =
      (Cursor.literal ⟨word ++ rest, position.next c⟩ word).map fun cursor => (value, cursor) := by
    simp only [List.mem_cons, List.not_mem_nil, or_false, Prod.mk.injEq] at h
    rw [readValue]
    rcases h with ⟨rfl, rfl, rfl⟩ | ⟨rfl, rfl, rfl⟩ | ⟨rfl, rfl, rfl⟩
    all_goals simp [skipBlank_cons, Cursor.skip]
  rw [List.cons_append, hword, literal_append]
  rfl

theorem readValue_string (text : String) :
    readValue (fuel + 1) depth ⟨stringText text ++ rest, position⟩ =
      .ok (string text, ⟨rest, position.after (stringText text)⟩) := by
  have hstring := readString_stringText text position rest
  obtain ⟨chars, hchars⟩ : ∃ chars, stringText text = '"' :: chars := ⟨_, rfl⟩
  rw [hchars, List.cons_append] at hstring ⊢
  rw [readValue]
  simp [skipBlank_cons, hstring, Except.map, isDigit]

theorem readValue_bracket (hdepth : 0 < depth) (chars : List Char) :
    readValue (fuel + 1) depth ⟨'[' :: chars, position⟩ =
      (readItems fuel (depth - 1) true ⟨chars, position.next '['⟩).map
        fun (items, cursor) => (array items, cursor) := by
  rw [readValue]
  simp [skipBlank_cons, Nat.ne_of_gt hdepth, Cursor.skip, isDigit]

theorem readValue_brace (hdepth : 0 < depth) (chars : List Char) :
    readValue (fuel + 1) depth ⟨'{' :: chars, position⟩ =
      (readMembers fuel (depth - 1) true ⟨chars, position.next '{'⟩).map
        fun (members, cursor) => (object members, cursor) := by
  rw [readValue]
  simp [skipBlank_cons, Nat.ne_of_gt hdepth, Cursor.skip, isDigit]

theorem readItems_close (first : Bool) :
    readItems (fuel + 1) depth first ⟨']' :: rest, position⟩ =
      .ok ([], ⟨rest, position.next ']'⟩) := by
  rw [readItems]
  simp [skipBlank_cons, Cursor.skip, pure, Except.pure]

theorem readMembers_close (first : Bool) :
    readMembers (fuel + 1) depth first ⟨'}' :: rest, position⟩ =
      .ok ([], ⟨rest, position.next '}'⟩) := by
  rw [readMembers, nextName?]
  simp [skipBlank_cons, Cursor.skip, pure, Except.pure, bind, Except.bind]

/-- `readItems` reads one item and goes on behind it. -/
theorem readItems_piece (first : Bool) {c : Char} (hc : c ∈ startChars) (chars : List Char) :
    readItems (fuel + 1) depth first ⟨separator first ++ c :: chars, position⟩ = do
      let (item, cursor) ← readValue fuel depth ⟨c :: chars, position.after (separator first)⟩
      let (items, cursor) ← readItems fuel depth false cursor
      return (item :: items, cursor) := by
  simp only [startChars, List.mem_cons, List.not_mem_nil, or_false] at hc
  rw [readItems]
  -- none of the characters that start a value ends a collection or is blank
  cases first with
  | false =>
    rcases hc with rfl | rfl | rfl | rfl | rfl | rfl
    all_goals simp [separator, skipBlank_cons, Cursor.skip, Position.after]
  | true =>
    rcases hc with rfl | rfl | rfl | rfl | rfl | rfl
    all_goals simp [separator, skipBlank_cons, Position.after]

/-- `nextName?` reads the name of a member. -/
theorem nextName?_piece (first : Bool) (name : String) :
    nextName? first ⟨separator first ++ (stringText name ++ rest), position⟩ =
      .ok (some name, ⟨rest, (position.after (separator first)).after (stringText name)⟩) := by
  obtain ⟨chars, hchars⟩ : ∃ chars, stringText name = '"' :: chars := ⟨_, rfl⟩
  -- what is left after the quote that the name starts with
  have hstring : readString ⟨chars ++ rest, (position.after (separator first)).next '"'⟩ =
      .ok (name, ⟨rest, (position.after (separator first)).after (stringText name)⟩) := by
    rw [← readString_stringText, hchars]
    rfl
  rw [hchars, List.cons_append, ← hchars, nextName?]
  cases first with
  | false =>
    have hstart : position.after (separator false) = position.next ',' := rfl
    rw [hstart] at hstring ⊢
    simp [separator, skipBlank_cons, Cursor.skip, hstring, Except.map]
  | true =>
    have hstart : position.after (separator true) = position := rfl
    rw [hstart] at hstring ⊢
    simp [separator, skipBlank_cons, Cursor.skip, hstring, Except.map]

/-- `readMembers` reads one member and goes on behind it. -/
theorem readMembers_piece (first : Bool) (name : String) (chars : List Char) :
    readMembers (fuel + 1) depth first
        ⟨separator first ++ (stringText name ++ ':' :: chars), position⟩ = do
      let (value, cursor) ← readValue fuel depth
        ⟨chars, ((position.after (separator first)).after (stringText name)).next ':'⟩
      let (members, cursor) ← readMembers fuel depth false cursor
      return ((name, value) :: members, cursor) := by
  rw [readMembers, nextName?_piece]
  simp [skipBlank_cons, Cursor.skip, bind, Except.bind]

end Steps

/-! ### Values, items and members

One induction on the value, for any place and for whatever stands behind the text. Two units of fuel
for each character are enough, since every nested step has a character of its own: a bracket, a
separator, or the end of its collection.
-/

mutual

/-- `readValue` inverts `compactChars`. -/
theorem readValue_compactChars (value : Json) {fuel depth : Nat} (hfits : value.FitsIn depth)
    (hfuel : 2 * value.compactChars.length ≤ fuel) (position : Position) (rest : List Char) :
    readValue fuel depth ⟨value.compactChars ++ rest, position⟩ =
      .ok (value, ⟨rest, position.after value.compactChars⟩) := by
  -- each call takes one step, and each character of the text pays for two
  obtain ⟨fuel, rfl⟩ : ∃ steps, fuel = steps + 1 := by
    obtain ⟨c, -, chars, hchars⟩ := exists_compactChars_eq_cons hfits
    rw [hchars, List.length_cons] at hfuel
    exact ⟨fuel - 1, by omega⟩
  cases value with
  | null => exact readValue_word position rest (by simp)
  | bool value =>
    cases value with
    | false => exact readValue_word position rest (by simp)
    | true => exact readValue_word position rest (by simp)
  | number value => exact hfits.elim
  | string value => exact readValue_string position rest value
  | array items =>
    rw [compactChars_array, List.length_cons] at hfuel
    rw [compactChars_array, List.cons_append, readValue_bracket position hfits.1,
      readItems_itemTexts items hfits.2 true (by omega)]
    rfl
  | object members =>
    rw [compactChars_object, List.length_cons] at hfuel
    rw [compactChars_object, List.cons_append, readValue_brace position hfits.1,
      readMembers_memberTexts members hfits.2 true (by omega)]
    rfl

/-- `readItems` inverts `itemTexts`. -/
theorem readItems_itemTexts (items : List Json) {fuel depth : Nat} (hfits : ItemsFitIn items depth)
    (first : Bool) (hfuel : 2 * (piecesText ']' first (itemTexts items)).length + 1 ≤ fuel)
    (position : Position) (rest : List Char) :
    readItems fuel depth first ⟨piecesText ']' first (itemTexts items) ++ rest, position⟩ =
      .ok (items, ⟨rest, position.after (piecesText ']' first (itemTexts items))⟩) := by
  obtain ⟨fuel, rfl⟩ : ∃ steps, fuel = steps + 1 := ⟨fuel - 1, by omega⟩
  cases items with
  | nil => exact readItems_close position rest first
  | cons item items =>
    obtain ⟨c, hc, chars, hchars⟩ := exists_compactChars_eq_cons hfits.1
    -- the item is not empty, so the rest is left with enough fuel
    have hpositive : 0 < item.compactChars.length := by rw [hchars]; exact Nat.succ_pos _
    rw [itemTexts, piecesText, List.length_append, List.length_append] at hfuel
    rw [itemTexts, piecesText, List.append_assoc, List.append_assoc, hchars, List.cons_append,
      readItems_piece position first hc, ← List.cons_append, ← hchars,
      readValue_compactChars item hfits.1 (by omega)]
    simp only [bind, Except.bind]
    rw [readItems_itemTexts items hfits.2 false (by omega)]
    simp only [Position.after_append]
    rfl

/-- `readMembers` inverts `memberTexts`. -/
theorem readMembers_memberTexts (members : List (String × Json)) {fuel depth : Nat}
    (hfits : MembersFitIn members depth) (first : Bool)
    (hfuel : 2 * (piecesText '}' first (memberTexts members)).length + 1 ≤ fuel)
    (position : Position) (rest : List Char) :
    readMembers fuel depth first ⟨piecesText '}' first (memberTexts members) ++ rest, position⟩ =
      .ok (members, ⟨rest, position.after (piecesText '}' first (memberTexts members))⟩) := by
  obtain ⟨fuel, rfl⟩ : ∃ steps, fuel = steps + 1 := ⟨fuel - 1, by omega⟩
  cases members with
  | nil => exact readMembers_close position rest first
  | cons member members =>
    obtain ⟨name, value⟩ := member
    rw [memberTexts, piecesText, List.length_append, List.length_append, List.length_append,
      List.length_cons] at hfuel
    rw [memberTexts, piecesText, List.append_assoc, List.append_assoc, List.append_assoc,
      List.cons_append, readMembers_piece position first,
      readValue_compactChars value hfits.1 (by omega)]
    simp only [bind, Except.bind]
    rw [readMembers_memberTexts members hfits.2 false (by omega)]
    simp only [Position.after_append]
    rfl

end

/-- `read` inverts `compact` on values that fit in `depthLimit`. -/
theorem read_compact {value : Json} (h : value.FitsIn depthLimit) :
    read value.compact = .ok value := by
  have hvalue := readValue_compactChars value h (Nat.le_add_right _ 2) ⟨1, 0⟩ []
  rw [List.append_nil] at hvalue
  rw [read, Cursor.ofString, compact, String.toList_ofList]
  simp only [hvalue, bind, Except.bind]
  rfl

end Json

end MarkdownTemplate
