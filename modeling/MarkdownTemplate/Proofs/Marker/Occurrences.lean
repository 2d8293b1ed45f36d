import MarkdownTemplate.Proofs.Marker.Spelling

/-!
# Occurrences of markers

A body is cut at the first marker that can be read in it, and then after that marker. This loses no
marker: two texts that are spelled as markers never overlap, since a marker has no number sign but
its first character. So the markers of a body are all its parts that are spelled as markers.

* `IsMarkerText`: how a marker is spelled, without regard to how it is read;
* `Marker.IsReadable.read?_append`: every spelling is read, whatever follows it;
* `Piece.ofChars_flatMap_chars`: pieces that follow one another are cut into themselves;
* `mem_markers_iff`: there is a marker wherever one can be read;
* `markers_occurrences`: the markers of a body, their places and what they say.
-/

namespace MarkdownTemplate

/-- The characters of names: ASCII letters and digits, `_`, `.` and `-`. -/
def IsNameCharacter (c : Char) : Prop :=
  ('A' ≤ c ∧ c ≤ 'Z') ∨ ('a' ≤ c ∧ c ≤ 'z') ∨ ('0' ≤ c ∧ c ≤ '9') ∨ c = '_' ∨ c = '.' ∨ c = '-'

/-- The spelling of a marker: `#`, an opening brace, at most one of `?` and `/`, any number of name
characters, at most one `?`, and a closing brace. -/
def IsMarkerText (chars : List Char) : Prop :=
  ∃ sign name question : List Char, sign ∈ [[], ['?'], ['/']] ∧ (∀ c ∈ name, IsNameCharacter c) ∧
    question ∈ [[], ['?']] ∧ chars = ['#', '{'] ++ sign ++ name ++ question ++ ['}']

theorem isNameChar_iff {c : Char} : isNameChar c = true ↔ IsNameCharacter c := by
  have hupper : c.isUpper = decide ('A' ≤ c ∧ c ≤ 'Z') := rfl
  have hlower : c.isLower = (decide ('a' ≤ c) && decide (c ≤ 'z')) := rfl
  have hdigit : c.isDigit = (decide ('0' ≤ c) && decide (c ≤ '9')) := rfl
  have halphanum : c.isAlphanum = (c.isUpper || c.isLower || c.isDigit) := rfl
  simp only [isNameChar, halphanum, hupper, hlower, hdigit, Bool.or_eq_true, Bool.and_eq_true,
    decide_eq_true_eq, beq_iff_eq, IsNameCharacter, or_assoc]

/-! ### Reading a marker -/

namespace Marker

/-- `takeWhile` and `dropWhile` split a name from what follows, if the latter starts with no name
character. -/
theorem span_isNameChar {name after : List Char} (hname : ∀ c ∈ name, isNameChar c = true)
    (hafter : ∀ c ∈ after.head?, isNameChar c = false) :
    (name ++ after).takeWhile isNameChar = name ∧ (name ++ after).dropWhile isNameChar = after := by
  rw [List.takeWhile_append_of_pos hname, List.dropWhile_append_of_pos hname]
  cases after with
  | nil => simp
  | cons c after =>
    have hc : isNameChar c = false := hafter c rfl
    simp [hc]

/-- `readKind` leaves any character but `?` and `/` in front of the name of a `.placeholder`. -/
theorem readKind_cons {c : Char} {chars : List Char} (hquestion : c ≠ '?') (hslash : c ≠ '/') :
    readKind (c :: chars) = (.placeholder, c :: chars) := by
  unfold readKind
  split
  · exact absurd (List.cons.inj ‹_›).1 hquestion
  · exact absurd (List.cons.inj ‹_›).1 hslash
  · rfl

/-- If `readKind` finds a `.placeholder`, no `?` follows the brace. -/
theorem readQuestion_of_readKind {inside : List Char} (h : (readKind inside).1 = .placeholder) :
    (readKind inside).2 = inside ∧ (readQuestion inside).1 = false := by
  unfold readKind at h ⊢
  split at h
  · exact absurd h (by simp)
  · exact absurd h (by simp)
  · rename_i hquestion _
    refine ⟨rfl, ?_⟩
    unfold readQuestion
    split
    · exact absurd rfl (hquestion _)
    · rfl

/-- `read?` finds the marker if `readKind` finds its kind and leaves its name, its question mark and
a closing brace. -/
theorem read?_of_readKind {inside name rest : List Char} {kind : MarkerKind} {isQuestion : Bool}
    (hname : ∀ c ∈ name, isNameChar c = true)
    (hkind : readKind inside =
      (kind, name ++ ((if isQuestion then ['?'] else []) ++ '}' :: rest))) :
    read? ('#' :: '{' :: inside) = some (⟨kind, String.ofList name, isQuestion⟩, rest) := by
  have hend : ∀ c ∈ ((if isQuestion then ['?'] else []) ++ '}' :: rest).head?,
      isNameChar c = false := by
    cases isQuestion <;> simp [isNameChar]
  obtain ⟨htake, hdrop⟩ := span_isNameChar hname hend
  rw [read?, hkind]
  simp only [htake, hdrop]
  cases isQuestion <;> rfl

/-- A marker that `read?` finds again in its own characters. A `.placeholder` with an empty name has
no question mark, since `#{?}` has kind `.opening`. -/
structure IsReadable (marker : Marker) : Prop where
  /-- The name has name characters only. -/
  name : ∀ c ∈ marker.name.toList, isNameChar c = true
  /-- A question mark follows the name of a placeholder only if there is a name. -/
  question : marker.kind = .placeholder → marker.name = "" → marker.isQuestion = false

variable {chars rest : List Char} {marker : Marker}

/-- What follows the brace of a `.placeholder` is neither `?` nor `/`. -/
theorem IsReadable.exists_chars_eq (h : marker.IsReadable) (hkind : marker.kind = .placeholder) :
    ∃ c inside, marker.chars = '#' :: '{' :: c :: inside ∧ c ≠ '?' ∧ c ≠ '/' := by
  rw [Marker.chars, hkind]
  cases hname : marker.name.toList with
  | nil =>
    rw [h.question hkind (String.toList_eq_nil_iff.mp hname)]
    exact ⟨'}', [], rfl, by decide, by decide⟩
  | cons c name =>
    have hc : isNameChar c = true := h.name c (by rw [hname]; exact List.mem_cons_self)
    refine ⟨c, _, rfl, ?_, ?_⟩
    · rintro rfl
      exact absurd hc (by decide)
    · rintro rfl
      exact absurd hc (by decide)

/-- `read?` finds a readable marker in front of any `rest`. -/
theorem IsReadable.read?_append (h : marker.IsReadable) (rest : List Char) :
    read? (marker.chars ++ rest) = some (marker, rest) := by
  obtain ⟨kind, name, isQuestion⟩ := marker
  have hread : ∀ inside, readKind inside = (kind, name.toList ++
      ((if isQuestion then ['?'] else []) ++ '}' :: rest)) →
        read? ('#' :: '{' :: inside) = some (⟨kind, name, isQuestion⟩, rest) := by
    intro inside hkind
    have hread := read?_of_readKind h.name hkind
    rwa [String.ofList_toList] at hread
  -- without a sign, the name itself must not start like one
  cases kind with
  | opening => simpa [Marker.chars, MarkerKind.lead] using hread _ rfl
  | closing => simpa [Marker.chars, MarkerKind.lead] using hread _ rfl
  | placeholder =>
    obtain ⟨c, inside, hchars, hquestion, hslash⟩ := h.exists_chars_eq rfl
    simp only [Marker.chars, MarkerKind.lead, List.cons_append, List.nil_append, List.cons.injEq,
      true_and] at hchars
    have hinside : name.toList ++ ((if isQuestion then ['?'] else []) ++ '}' :: rest) =
        c :: (inside ++ rest) := by
      rw [← List.cons_append, ← hchars]
      simp
    simpa [Marker.chars, MarkerKind.lead] using
      hread (name.toList ++ ((if isQuestion then ['?'] else []) ++ '}' :: rest))
        (by rw [hinside, readKind_cons hquestion hslash])

/-- Every marker that `read?` finds is readable. -/
theorem isReadable_of_read? (h : read? chars = some (marker, rest)) : marker.IsReadable := by
  refine ⟨isNameChar_of_read? h, ?_⟩
  intro hkind hname
  unfold read? at h
  split at h
  · rename_i inside
    dsimp only at h
    split at h
    · rename_i after heq
      obtain ⟨rfl, -⟩ := Prod.mk.inj (Option.some.inj h)
      obtain ⟨hinside, hquestion⟩ := readQuestion_of_readKind hkind
      -- the name is empty, so the question mark would stand right after the brace
      have hdrop : inside.dropWhile isNameChar = inside := by
        have happend := List.takeWhile_append_dropWhile (p := isNameChar) (l := inside)
        rw [hinside] at hname
        rwa [String.ofList_eq_empty_iff.mp hname, List.nil_append] at happend
      rwa [hinside, hdrop]
    · exact absurd h (by simp)
  · exact absurd h (by simp)

/-- Every `IsMarkerText` is the text of a readable marker. -/
theorem exists_isReadable_of_isMarkerText (h : IsMarkerText chars) :
    ∃ marker : Marker, marker.IsReadable ∧ marker.chars = chars := by
  obtain ⟨sign, name, question, hsign, hname, hquestion, rfl⟩ := h
  have hname : ∀ c ∈ name, isNameChar c = true := fun c hc => isNameChar_iff.mpr (hname c hc)
  obtain ⟨isQuestion, rfl⟩ : ∃ isQuestion : Bool, question = if isQuestion then ['?'] else [] := by
    rcases List.mem_pair.mp hquestion with rfl | rfl
    · exact ⟨false, rfl⟩
    · exact ⟨true, rfl⟩
  simp only [List.mem_cons, List.not_mem_nil, or_false] at hsign
  rcases hsign with rfl | rfl | rfl
  · by_cases hempty : name = [] ∧ isQuestion = true
    -- a question mark for the end of an empty name is one that opens a block
    · obtain ⟨rfl, rfl⟩ := hempty
      exact ⟨⟨.opening, "", false⟩, ⟨by simp, by simp⟩, rfl⟩
    · refine ⟨⟨.placeholder, String.ofList name, isQuestion⟩, ⟨by simpa using hname, ?_⟩, ?_⟩
      · intro _ hnil
        have hnil : name = [] := by simpa using hnil
        simpa [hnil] using hempty
      · simp [Marker.chars, MarkerKind.lead]
  · exact ⟨⟨.opening, String.ofList name, isQuestion⟩, ⟨by simpa using hname, by simp⟩,
      by simp [Marker.chars, MarkerKind.lead]⟩
  · exact ⟨⟨.closing, String.ofList name, isQuestion⟩, ⟨by simpa using hname, by simp⟩,
      by simp [Marker.chars, MarkerKind.lead]⟩

/-- The text of a readable marker is an `IsMarkerText`. -/
theorem IsReadable.isMarkerText (h : marker.IsReadable) : IsMarkerText marker.chars := by
  refine ⟨marker.kind.lead.drop 2, marker.name.toList, if marker.isQuestion then ['?'] else [],
    ?_, fun c hc => isNameChar_iff.mp (h.name c hc), ?_, ?_⟩
  · cases marker.kind <;> simp [MarkerKind.lead]
  · cases marker.isQuestion <;> simp
  · rw [Marker.chars]
    cases marker.kind <;> simp [MarkerKind.lead]

/-- What `read?` finds does not depend on what follows it. -/
theorem read?_append (h : read? chars = some (marker, rest)) (more : List Char) :
    read? (chars ++ more) = some (marker, rest ++ more) := by
  rw [← chars_append_of_read? h, List.append_assoc]
  exact (isReadable_of_read? h).read?_append (rest ++ more)

/-- If `read?` finds no marker in front of `left ++ right`, it finds none in front of `left`. -/
theorem read?_eq_none_of_append {left : List Char} (right : List Char)
    (h : read? (left ++ right) = none) : read? left = none := by
  cases hleft : read? left with
  | none => rfl
  | some found =>
    rw [read?_append hleft right] at h
    exact absurd h (Option.some_ne_none _)

theorem chars_eq_cons (marker : Marker) : marker.chars = '#' :: marker.chars.tail := by
  rw [Marker.chars]
  cases marker.kind <;> rfl

/-- The characters of a readable marker hold no `#` but the first. -/
theorem IsReadable.not_mem_tail_chars (h : marker.IsReadable) : '#' ∉ marker.chars.tail := by
  have hname : '#' ∉ marker.name.toList := fun hmem => absurd (h.name _ hmem) (by decide)
  rw [Marker.chars]
  cases marker.kind <;> cases marker.isQuestion <;> simp [MarkerKind.lead, hname]

/-- A marker that `read?` finds behind the start of `first` stands behind the end of `first`. -/
theorem not_overlap {before later after : List Char} {first : Marker}
    (hfirst : read? (before ++ chars) = some (first, later))
    (h : read? chars = some (marker, after)) :
    before = [] ∨ ∃ between, before = first.chars ++ between ∧ later = between ++ chars := by
  rcases List.append_eq_append_iff.mp (chars_append_of_read? hfirst) with
    hbehind | ⟨inside, hinside, hchars⟩
  · exact Or.inr hbehind
  · cases inside with
    | nil =>
      rw [List.append_nil] at hinside
      exact Or.inr ⟨[], by rw [hinside, List.append_nil], hchars.symm⟩
    | cons c inside =>
      -- the second marker starts with a number sign, which the first one has at its front only
      have hsharp : c = '#' := by
        have hstart := chars_append_of_read? h
        rw [hchars, chars_eq_cons] at hstart
        exact (List.cons.inj hstart).1.symm
      cases before with
      | nil => exact Or.inl rfl
      | cons d before =>
        refine absurd ?_ (isReadable_of_read? hfirst).not_mem_tail_chars
        simp [hinside, hsharp]

end Marker

/-! ### Runs of pieces -/

namespace Piece

@[simp]
theorem ofChars_nil : ofChars [] = [] := by
  rw [ofChars]

/-- `ofChars` cuts a readable marker off the front of a text. -/
theorem ofChars_chars_append {found : Marker} (h : found.IsReadable) (rest : List Char) :
    ofChars (found.chars ++ rest) = marker found :: ofChars rest := by
  have hread := h.read?_append rest
  obtain ⟨c, chars, hchars⟩ := List.exists_cons_of_ne_nil found.chars_ne_nil
  rw [hchars, List.cons_append] at hread ⊢
  rw [ofChars]
  split
  · rename_i hother
    rw [hread] at hother
    obtain ⟨rfl, rfl⟩ := Prod.mk.inj (Option.some.inj hother)
    rfl
  · rename_i hnone
    rw [hread] at hnone
    exact absurd hnone (by simp)

/-- Where `read?` finds no marker, `ofChars` puts the character in front with `cons`. -/
theorem ofChars_cons {c : Char} {rest : List Char} (h : Marker.read? (c :: rest) = none) :
    ofChars (c :: rest) = cons c (ofChars rest) := by
  rw [ofChars]
  split
  · rename_i hread
    rw [h] at hread
    exact absurd hread (by simp)
  · rfl

/-- `cons` puts a character in front of the first text, or makes it a text of its own if the pieces
do not start with one. -/
theorem cons_cases (c : Char) (pieces : List Piece) :
    (∃ chars later, pieces = text chars :: later ∧ cons c pieces = text (c :: chars) :: later) ∨
      ((∀ chars later, pieces ≠ text chars :: later) ∧ cons c pieces = text [c] :: pieces) := by
  unfold cons
  split
  · rename_i chars later
    exact Or.inl ⟨chars, later, rfl, rfl⟩
  · rename_i hnot
    exact Or.inr ⟨hnot, rfl⟩

/-- `ofChars` cuts the last pieces of a text into themselves. -/
theorem ofChars_flatMap_chars_of_suffix {chars : List Char} {run : List Piece}
    (h : run <:+ ofChars chars) : ofChars (run.flatMap Piece.chars) = run := by
  fun_induction ofChars chars with
  | case1 =>
    rw [List.suffix_nil.mp h]
    exact ofChars_nil
  | case2 c rest found after hread ih =>
    rcases List.suffix_cons_iff.mp h with rfl | hsuffix
    · rw [List.flatMap_cons, flatMap_chars_ofChars]
      exact ofChars_chars_append (Marker.isReadable_of_read? hread) after
    · exact ih hsuffix
  | case3 c rest hread ih =>
    -- either all pieces are meant, or some of those behind the character
    have hall : run = cons c (ofChars rest) → ofChars (run.flatMap Piece.chars) = run := by
      rintro rfl
      rw [flatMap_chars_cons, flatMap_chars_ofChars, ofChars_cons hread]
    rcases cons_cases c (ofChars rest) with ⟨text, later, hpieces, hcons⟩ | ⟨-, hcons⟩
    · rw [hcons] at h
      rcases List.suffix_cons_iff.mp h with hrun | hsuffix
      · exact hall (hrun.trans hcons.symm)
      · refine ih ?_
        rw [hpieces]
        exact hsuffix.trans (List.suffix_cons _ _)
    · rw [hcons] at h
      rcases List.suffix_cons_iff.mp h with hrun | hsuffix
      · exact hall (hrun.trans hcons.symm)
      · exact ih hsuffix

/-- `ofChars` cuts the first pieces of a text into themselves. -/
theorem ofChars_flatMap_chars_of_prefix {chars : List Char} {run : List Piece}
    (h : run <+: ofChars chars) : ofChars (run.flatMap Piece.chars) = run := by
  fun_induction ofChars chars generalizing run with
  | case1 =>
    rw [List.prefix_nil.mp h]
    exact ofChars_nil
  | case2 c rest found after hread ih =>
    rcases List.prefix_cons_iff.mp h with rfl | ⟨run, rfl, hprefix⟩
    · exact ofChars_nil
    · rw [List.flatMap_cons]
      exact (ofChars_chars_append (Marker.isReadable_of_read? hread) _).trans
        (congrArg _ (ih hprefix))
  | case3 c rest hread ih =>
    -- no marker starts at `c`, also when the text ends sooner
    have hnone : ∀ sooner : List Piece, sooner <+: ofChars rest →
        Marker.read? (c :: sooner.flatMap Piece.chars) = none := by
      rintro sooner ⟨later, hlater⟩
      apply Marker.read?_eq_none_of_append (later.flatMap Piece.chars)
      rw [List.cons_append, ← List.flatMap_append, hlater, flatMap_chars_ofChars, hread]
    rcases cons_cases c (ofChars rest) with ⟨text, later, hpieces, hcons⟩ | ⟨hnot, hcons⟩
    · rw [hcons] at h
      rcases List.prefix_cons_iff.mp h with rfl | ⟨run, rfl, hprefix⟩
      · exact ofChars_nil
      · have hsooner : Piece.text text :: run <+: ofChars rest := by
          rw [hpieces]
          exact (List.prefix_cons_inj _).mpr hprefix
        have hread := hnone _ hsooner
        have hcut := ih hsooner
        rw [List.flatMap_cons] at hread hcut ⊢
        exact (ofChars_cons hread).trans (congrArg (cons c) hcut)
    · rw [hcons] at h
      rcases List.prefix_cons_iff.mp h with rfl | ⟨run, rfl, hprefix⟩
      · exact ofChars_nil
      · have hcut := ih hprefix
        rw [List.flatMap_cons]
        refine (ofChars_cons (hnone _ hprefix)).trans ?_
        rw [hcut]
        -- what `c` is put in front of is no text, so `cons` makes it a piece of its own
        cases run with
        | nil => rfl
        | cons piece run =>
          cases piece with
          | text chars =>
            obtain ⟨later, hlater⟩ := hprefix
            exact absurd hlater.symm (hnot chars _)
          | marker found => rfl

/-- `ofChars` cuts pieces that follow one another in a text into themselves. -/
theorem ofChars_flatMap_chars {chars : List Char} {run : List Piece}
    (h : run <:+: ofChars chars) : ofChars (run.flatMap Piece.chars) = run := by
  obtain ⟨tail, hprefix, hsuffix⟩ := List.infix_iff_prefix_suffix.mp h
  rw [← ofChars_flatMap_chars_of_suffix hsuffix] at hprefix
  exact ofChars_flatMap_chars_of_prefix hprefix

/-! ### Places of markers -/

/-- `cons` moves the markers of the pieces by the size of its character. -/
theorem markersFrom_cons (offset : Nat) (c : Char) (pieces : List Piece) :
    markersFrom offset (cons c pieces) = markersFrom (offset + c.utf8Size) pieces := by
  rcases cons_cases c pieces with ⟨chars, later, rfl, hcons⟩ | ⟨-, hcons⟩
  · rw [hcons, markersFrom, markersFrom, byteLength_cons, Nat.add_assoc]
  · rw [hcons, markersFrom, byteLength_cons, byteLength_nil, Nat.add_zero]

/-- Each marker of `markersFrom` is one that `Marker.read?` finds where it stands. -/
theorem exists_read?_of_mem_markersFrom {chars : List Char} {offset : Nat} {found : PlacedMarker}
    (h : found ∈ markersFrom offset (ofChars chars)) :
    ∃ before rest after, chars = before ++ rest ∧ Marker.read? rest = some (found.1, after) ∧
      found.2 = ⟨offset + byteLength before, offset + byteLength before + found.1.size⟩ := by
  fun_induction ofChars chars generalizing offset with
  | case1 => exact absurd h (by simp [markersFrom])
  -- the marker is the one in front, or one behind it
  | case2 c rest first after hread ih =>
    rcases List.mem_cons.mp h with rfl | hlater
    · exact ⟨[], c :: rest, after, rfl, hread, rfl⟩
    · obtain ⟨before, next, after, rfl, hnext, hspan⟩ := ih hlater
      refine ⟨first.chars ++ before, next, after, ?_, hnext, ?_⟩
      · rw [List.append_assoc, Marker.chars_append_of_read? hread]
      · rw [hspan, byteLength_append, ← Marker.size, ← Nat.add_assoc]
  | case3 c rest hread ih =>
    rw [markersFrom_cons] at h
    obtain ⟨before, next, after, rfl, hnext, hspan⟩ := ih h
    refine ⟨c :: before, next, after, rfl, hnext, ?_⟩
    rw [hspan, byteLength_cons, ← Nat.add_assoc]

/-- Each marker that `Marker.read?` finds at some place of a text is one of `markersFrom`. -/
theorem mem_markersFrom_of_read? {before rest after : List Char} {found : Marker}
    (h : Marker.read? rest = some (found, after)) (offset : Nat) :
    (found, ⟨offset + byteLength before, offset + byteLength before + found.size⟩) ∈
      markersFrom offset (ofChars (before ++ rest)) := by
  generalize hchars : before ++ rest = chars
  fun_induction ofChars chars generalizing before offset with
  | case1 =>
    obtain ⟨-, rfl⟩ := List.append_eq_nil_iff.mp hchars
    exact absurd h (by simp [Marker.read?])
  | case2 c tail first later hread ih =>
    -- two markers never overlap, so ours is the one in front or behind it
    rcases Marker.not_overlap (hchars ▸ hread) h with rfl | ⟨between, rfl, rfl⟩
    · rw [List.nil_append] at hchars
      rw [hchars, hread] at h
      obtain ⟨rfl, rfl⟩ := Prod.mk.inj (Option.some.inj h)
      exact List.mem_cons_self
    · have hmem := ih (offset + first.size) rfl
      rw [byteLength_append, ← Marker.size, ← Nat.add_assoc]
      exact List.mem_cons_of_mem _ hmem
  | case3 c tail hread ih =>
    cases before with
    | nil =>
      obtain rfl : rest = c :: tail := hchars
      rw [hread] at h
      exact absurd h (by simp)
    | cons d before =>
      obtain ⟨rfl, htail⟩ := List.cons.inj hchars
      have hmem := ih (offset + d.utf8Size) htail
      rwa [Nat.add_assoc, ← byteLength_cons, ← markersFrom_cons] at hmem

end Piece

/-- A marker is one of the `markers` of a body if and only if `Marker.read?` finds it where it
stands. -/
theorem mem_markers_iff {body : String} {found : PlacedMarker} :
    found ∈ markers body ↔
      ∃ before rest after, body.toList = before ++ rest ∧
        Marker.read? rest = some (found.1, after) ∧
          found.2 = ⟨byteLength before, byteLength before + found.1.size⟩ := by
  constructor
  · intro hmem
    have hread := Piece.exists_read?_of_mem_markersFrom hmem
    simpa only [Nat.zero_add] using hread
  · rintro ⟨before, rest, after, hbody, hread, hspan⟩
    have hmem : (found.1, ⟨0 + byteLength before, 0 + byteLength before + found.1.size⟩) ∈
        Piece.markersFrom 0 (Piece.ofChars (before ++ rest)) :=
      Piece.mem_markersFrom_of_read? hread 0
    rwa [Nat.zero_add, ← hspan, ← hbody] at hmem

/-- A span is that of one of the `markers` if and only if it slices an `IsMarkerText` out of the
body. -/
theorem mem_map_snd_markers_iff {body : String} {span : Span} :
    span ∈ (markers body).map Prod.snd ↔
      ∃ text, span.slice? body = some text ∧ IsMarkerText text.toList := by
  constructor
  · intro hspan
    obtain ⟨found, hfound, rfl⟩ := List.mem_map.mp hspan
    obtain ⟨_, _, _, _, hread, _⟩ := mem_markers_iff.mp hfound
    refine ⟨found.1.text, slice?_of_mem_markers hfound, ?_⟩
    rw [Marker.text, String.toList_ofList]
    exact (Marker.isReadable_of_read? hread).isMarkerText
  · rintro ⟨text, hslice, htext⟩
    obtain ⟨before, after, hbody, hstart, hlength⟩ := Span.exists_of_slice?_eq_some hslice
    obtain ⟨marker, hreadable, hchars⟩ := Marker.exists_isReadable_of_isMarkerText htext
    have hread : Marker.read? (text.toList ++ after) = some (marker, after) := by
      rw [← hchars]
      exact hreadable.read?_append after
    -- a marker takes bytes, so the span does not end before it starts
    have hpos := byteLength_pos marker.chars_ne_nil
    have hstop : span = ⟨byteLength before, byteLength before + marker.size⟩ := by
      rw [← hchars] at hlength
      have hsize : byteLength before + marker.size = span.stop := by
        rw [hstart, Marker.size, hlength]
        omega
      rw [hsize, hstart]
    exact List.mem_map.mpr ⟨(marker, span), mem_markers_iff.mpr
      ⟨before, _, after, hbody, hread, hstop⟩, rfl⟩

/-! ### What a marker says -/

namespace Marker

/-- The kind, the name and the question mark of the marker are those that its characters show. -/
structure IsReadOff (marker : Marker) (chars : List Char) : Prop where
  /-- A question mark after the brace opens a block. -/
  opening : marker.kind = .opening ↔ ['#', '{', '?'] <+: chars
  /-- A slash after the brace closes one. -/
  closing : marker.kind = .closing ↔ ['#', '{', '/'] <+: chars
  /-- A question mark at the end makes a placeholder optional. -/
  question : marker.kind = .placeholder → (marker.isQuestion = true ↔ ['?', '}'] <:+ chars)
  /-- The name is all that the characters have of names. -/
  name : ∃ before after, chars = before ++ marker.name.toList ++ after ∧
    (∀ c ∈ marker.name.toList, IsNameCharacter c) ∧ ∀ c ∈ before ++ after, ¬ IsNameCharacter c

/-- What a readable marker says `IsReadOff` its characters. -/
theorem IsReadable.isReadOff {marker : Marker} (h : marker.IsReadable) :
    marker.IsReadOff marker.chars := by
  have hname : ∀ c ∈ marker.name.toList, IsNameCharacter c :=
    fun c hc => isNameChar_iff.mp (h.name c hc)
  have hsign : ∀ sign, sign = '?' ∨ sign = '/' → marker.kind = .placeholder →
      ¬ ['#', '{', sign] <+: marker.chars := by
    intro sign hsign hkind hprefix
    obtain ⟨c, inside, hchars, hquestion, hslash⟩ := h.exists_chars_eq hkind
    rw [hchars] at hprefix
    simp only [List.cons_prefix_cons, true_and, List.nil_prefix, and_true] at hprefix
    rcases hsign with rfl | rfl
    · exact hquestion hprefix.symm
    · exact hslash hprefix.symm
  constructor
  · cases hkind : marker.kind with
    | placeholder => simpa using hsign '?' (Or.inl rfl) hkind
    | opening => simp [Marker.chars, hkind, MarkerKind.lead]
    | closing => simp [Marker.chars, hkind, MarkerKind.lead]
  · cases hkind : marker.kind with
    | placeholder => simpa using hsign '/' (Or.inr rfl) hkind
    | opening => simp [Marker.chars, hkind, MarkerKind.lead]
    | closing => simp [Marker.chars, hkind, MarkerKind.lead]
  · intro hkind
    constructor
    · intro hquestion
      exact ⟨marker.kind.lead ++ marker.name.toList, by simp [Marker.chars, hquestion]⟩
    -- the brace and the name of a placeholder have no question mark
    · intro hsuffix
      have hmem : '?' ∈ marker.chars := hsuffix.subset List.mem_cons_self
      have hnot : '?' ∉ marker.name.toList := fun hc => absurd (h.name _ hc) (by decide)
      cases hquestion : marker.isQuestion with
      | true => rfl
      | false => simp [Marker.chars, hkind, hquestion, MarkerKind.lead, hnot] at hmem
  · have hlead : ∀ c ∈ marker.kind.lead, isNameChar c = false := by
      cases marker.kind <;> simp [MarkerKind.lead, isNameChar]
    have hend : ∀ c ∈ (if marker.isQuestion then ['?'] else []) ++ ['}'],
        isNameChar c = false := by
      cases marker.isQuestion <;> simp [isNameChar]
    refine ⟨marker.kind.lead, (if marker.isQuestion then ['?'] else []) ++ ['}'], ?_, hname, ?_⟩
    · simp [Marker.chars]
    · intro c hc
      rw [← isNameChar_iff, Bool.not_eq_true]
      exact (List.forall_mem_append.mpr ⟨hlead, hend⟩) c hc

end Marker

/-- The spans of `markers body` are exactly those that slice an `IsMarkerText` out of the body, also
where one starts inside a text that is almost a marker. They are listed in order and do not overlap,
and each slices out the text of its marker, which says what `IsReadOff` that text. -/
theorem markers_occurrences (body : String) :
    (∀ span : Span, span ∈ (markers body).map Prod.snd ↔
      ∃ text, span.slice? body = some text ∧ IsMarkerText text.toList) ∧
    ((markers body).Pairwise fun first second =>
      first.2.start < second.2.start ∧ first.2.stop ≤ second.2.start) ∧
    ∀ found ∈ markers body, found.2.start < found.2.stop ∧
      found.2.stop ≤ byteLength body.toList ∧
      found.2.slice? body = some found.1.text ∧ found.1.IsReadOff found.1.text.toList := by
  refine ⟨fun span => mem_map_snd_markers_iff, ?_, ?_⟩
  · exact (markers_pairwise body).and (markers_apart body)
  · intro found hfound
    obtain ⟨_, _, _, _, hread, _⟩ := mem_markers_iff.mp hfound
    obtain ⟨hstart, hstop⟩ := markers_bounds hfound
    refine ⟨hstart, hstop, slice?_of_mem_markers hfound, ?_⟩
    rw [Marker.text, String.toList_ofList]
    exact (Marker.isReadable_of_read? hread).isReadOff

/-- A marker is found where one almost starts before it. -/
example : (markers "#{a#{#{??}}}").map Prod.snd = [⟨5, 10⟩] := by
  cbv

end MarkdownTemplate
