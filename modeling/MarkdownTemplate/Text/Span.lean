/-!
# Byte spans

Positions in a text count the bytes of its UTF-8 encoding. A `Span` is a range of such positions,
and `Span.slice?` is the text a span covers, which exists when both ends lie on character
boundaries.
-/

namespace MarkdownTemplate

/-- The number of bytes that `chars` take in UTF-8. -/
def byteLength : List Char → Nat
  | [] => 0
  | c :: chars => c.utf8Size + byteLength chars

@[simp]
theorem byteLength_nil : byteLength [] = 0 := rfl

@[simp]
theorem byteLength_cons (c : Char) (chars : List Char) :
    byteLength (c :: chars) = c.utf8Size + byteLength chars := rfl

@[simp]
theorem byteLength_append (left right : List Char) :
    byteLength (left ++ right) = byteLength left + byteLength right := by
  induction left with
  | nil => simp
  | cons c chars ih => simp [ih, Nat.add_assoc]

/-- The part of `chars` after its first `count` bytes, if these end on a character boundary. -/
def dropBytes? : Nat → List Char → Option (List Char)
  | 0, chars => some chars
  | _ + 1, [] => none
  | count + 1, c :: chars =>
    if c.utf8Size ≤ count + 1 then dropBytes? (count + 1 - c.utf8Size) chars else none

/-- The first `count` bytes of `chars`, if these end on a character boundary. -/
def takeBytes? : Nat → List Char → Option (List Char)
  | 0, _ => some []
  | _ + 1, [] => none
  | count + 1, c :: chars =>
    if c.utf8Size ≤ count + 1 then
      (takeBytes? (count + 1 - c.utf8Size) chars).map (c :: ·)
    else
      none

/-- Bytes beyond a whole leading part are dropped from the rest. -/
theorem dropBytes?_byteLength_add (left right : List Char) (count : Nat) :
    dropBytes? (byteLength left + count) (left ++ right) = dropBytes? count right := by
  induction left with
  | nil => simp
  | cons c chars ih =>
    have hpos : 0 < c.utf8Size := Char.utf8Size_pos c
    obtain ⟨total, htotal⟩ : ∃ total, byteLength (c :: chars) + count = total + 1 :=
      ⟨byteLength (c :: chars) + count - 1, by simp; omega⟩
    have hrest : total + 1 - c.utf8Size = byteLength chars + count := by
      rw [← htotal, byteLength_cons]; omega
    have hle : c.utf8Size ≤ total + 1 := by rw [← htotal, byteLength_cons]; omega
    rw [htotal, List.cons_append, dropBytes?, if_pos hle, hrest, ih]

/-- Dropping the bytes of a whole leading part leaves the rest. -/
theorem dropBytes?_byteLength_append (left right : List Char) :
    dropBytes? (byteLength left) (left ++ right) = some right := by
  have hdrop := dropBytes?_byteLength_add left right 0
  rwa [Nat.add_zero, dropBytes?] at hdrop

/-- Taking the bytes of a whole leading part gives that part. -/
theorem takeBytes?_byteLength_append (left right : List Char) :
    takeBytes? (byteLength left) (left ++ right) = some left := by
  induction left with
  | nil => simp [takeBytes?]
  | cons c chars ih =>
    have hpos : 0 < c.utf8Size := Char.utf8Size_pos c
    obtain ⟨count, hcount⟩ : ∃ count, byteLength (c :: chars) = count + 1 :=
      ⟨byteLength (c :: chars) - 1, by simp; omega⟩
    have hrest : count + 1 - c.utf8Size = byteLength chars := by
      rw [← hcount]; simp
    have hle : c.utf8Size ≤ count + 1 := by rw [← hcount]; simp
    rw [hcount, List.cons_append, takeBytes?, if_pos hle, hrest, ih]
    rfl

/-- What is left after bytes are dropped stands behind a part of as many bytes. -/
theorem exists_of_dropBytes?_eq_some {count : Nat} {chars rest : List Char}
    (h : dropBytes? count chars = some rest) :
    ∃ before, chars = before ++ rest ∧ byteLength before = count := by
  fun_induction dropBytes? count chars with
  | case1 chars => exact ⟨[], Option.some.inj h, rfl⟩
  | case2 count => exact absurd h (by simp)
  | case3 count c chars hle ih =>
    obtain ⟨before, rfl, hlength⟩ := ih h
    exact ⟨c :: before, rfl, by rw [byteLength_cons, hlength]; omega⟩
  | case4 count c chars hle => exact absurd h (by simp)

/-- The bytes that are taken are as many as asked for, and the rest follows them. -/
theorem exists_of_takeBytes?_eq_some {count : Nat} {chars covered : List Char}
    (h : takeBytes? count chars = some covered) :
    ∃ after, chars = covered ++ after ∧ byteLength covered = count := by
  fun_induction takeBytes? count chars generalizing covered with
  | case1 chars =>
    obtain rfl := Option.some.inj h
    exact ⟨chars, rfl, rfl⟩
  | case2 count => exact absurd h (by simp)
  | case3 count c chars hle ih =>
    obtain ⟨covered, htake, rfl⟩ := Option.map_eq_some_iff.mp h
    obtain ⟨after, rfl, hlength⟩ := ih htake
    exact ⟨after, rfl, by rw [byteLength_cons, hlength]; omega⟩
  | case4 count c chars hle => exact absurd h (by simp)

/-- A range of byte positions in a text. -/
structure Span where
  /-- The position of the first byte. -/
  start : Nat
  /-- The position after the last byte. -/
  stop : Nat
deriving DecidableEq

namespace Span

/-- The span that lies `offset` bytes further on. -/
def shift (span : Span) (offset : Nat) : Span :=
  ⟨span.start + offset, span.stop + offset⟩

/-- The text that the span covers in `text`, if both ends lie on character boundaries. -/
def slice? (span : Span) (text : String) : Option String := do
  let rest ← dropBytes? span.start text.toList
  let covered ← takeBytes? (span.stop - span.start) rest
  return String.ofList covered

/-- A span that starts after `left` and is as long as `middle` covers `middle`. -/
theorem slice?_append (left middle right : List Char) :
    slice? ⟨byteLength left, byteLength left + byteLength middle⟩
      (String.ofList (left ++ (middle ++ right))) = some (String.ofList middle) := by
  simp [slice?, dropBytes?_byteLength_append, takeBytes?_byteLength_append]

/-- What a span covers stands in the text, as many bytes from its start as the span starts and of as
many bytes as the span has. -/
theorem exists_of_slice?_eq_some {span : Span} {text covered : String}
    (h : span.slice? text = some covered) :
    ∃ before after, text.toList = before ++ (covered.toList ++ after) ∧
      byteLength before = span.start ∧ byteLength covered.toList = span.stop - span.start := by
  obtain ⟨rest, hdrop, hcovered⟩ := Option.bind_eq_some_iff.mp h
  obtain ⟨chars, htake, heq⟩ := Option.bind_eq_some_iff.mp hcovered
  obtain rfl : String.ofList chars = covered := Option.some.inj heq
  obtain ⟨before, htext, hbefore⟩ := exists_of_dropBytes?_eq_some hdrop
  obtain ⟨after, rfl, hlength⟩ := exists_of_takeBytes?_eq_some htake
  rw [String.toList_ofList]
  exact ⟨before, after, htext, hbefore, hlength⟩

/-- A span that is moved behind a text covers the same as before. -/
theorem slice?_shift (span : Span) (before after : String) :
    (span.shift (byteLength before.toList)).slice? (before ++ after) = span.slice? after := by
  have hlength : span.stop + byteLength before.toList - (span.start + byteLength before.toList) =
      span.stop - span.start := Nat.add_sub_add_right ..
  rw [slice?, slice?, shift, String.toList_append, hlength, Nat.add_comm,
    dropBytes?_byteLength_add]

end Span

end MarkdownTemplate
