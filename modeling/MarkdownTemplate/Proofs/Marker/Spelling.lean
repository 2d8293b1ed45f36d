import Mathlib.Data.List.TakeWhile
import MarkdownTemplate.Proofs.Marker.Pairing

/-!
# How markers are spelled

What a marker does to a body does not fix how it is spelled: a question mark may follow its name,
and a closing marker may leave the name out.

* `placeholderTexts`, `openingTexts` and `closingTexts`: the spellings for a name;
* `text_mem_placeholderTexts`, `text_mem_openingTexts` and `text_mem_closingTexts`: every marker has
  one of them;
* `isNameChar_of_mem_markers`: the names of the markers of a body have name characters only.
-/

namespace MarkdownTemplate

/-- `inside` between braces. -/
def braced (inside : String) : String :=
  String.singleton '{' ++ inside ++ String.singleton '}'

/-- The spellings of markers that may stand for the value of the variable `name`. -/
def placeholderTexts (name : String) : List String :=
  ["#" ++ braced name, "#" ++ braced (name ++ "?")]

/-- The spellings of markers that may open a block of the given `name`. -/
def openingTexts (name : String) : List String :=
  ["#" ++ braced ("?" ++ name), "#" ++ braced ("?" ++ name ++ "?")]

/-- The spellings of markers that may close a block of the given `name`. -/
def closingTexts (name : String) : List String :=
  ["#" ++ braced ("/" ++ name), "#" ++ braced ("/" ++ name ++ "?"), "#{/}", "#{/?}"]

/-- What a kind of marker has between its brace and its name. -/
def MarkerKind.sign : MarkerKind → String
  | placeholder => ""
  | opening => "?"
  | closing => "/"

namespace Marker

variable {marker : Marker} {name : String}

theorem text_eq (marker : Marker) :
    marker.text = "#" ++
      braced (marker.kind.sign ++ marker.name ++ if marker.isQuestion then "?" else "") := by
  apply String.toList_injective
  rw [Marker.text, String.toList_ofList, Marker.chars, braced]
  cases marker.kind <;> cases marker.isQuestion <;> simp [MarkerKind.lead, MarkerKind.sign]

/-- The text of a marker of kind `.placeholder` is one of the `placeholderTexts` of its name. -/
theorem text_mem_placeholderTexts (h : marker.kind = .placeholder) :
    marker.text ∈ placeholderTexts marker.name := by
  rw [Marker.text_eq, h, placeholderTexts]
  cases marker.isQuestion <;> simp [MarkerKind.sign]

/-- The text of a marker that `opensBlock` is one of the `openingTexts` of its name. -/
theorem text_mem_openingTexts (h : marker.opensBlock = true) :
    marker.text ∈ openingTexts marker.name := by
  rw [Marker.text_eq, (Marker.opensBlock_iff.mp h).1, openingTexts]
  cases marker.isQuestion <;> simp [MarkerKind.sign]

/-- The text of a marker that `closesBlock` of `name` is one of `closingTexts name`. -/
theorem text_mem_closingTexts (h : marker.closesBlock name = true) :
    marker.text ∈ closingTexts name := by
  obtain ⟨hkind, hnames⟩ := Marker.closesBlock_iff.mp h
  rw [Marker.text_eq, hkind, closingTexts]
  rcases hnames with hname | hname
  · rw [hname]
    cases marker.isQuestion <;> simp [MarkerKind.sign, braced]
  · rw [hname]
    cases marker.isQuestion <;> simp [MarkerKind.sign]

/-- The name of a marker that `read?` finds consists of characters with `isNameChar`. -/
theorem isNameChar_of_read? {chars rest : List Char} (h : read? chars = some (marker, rest)) :
    ∀ c ∈ marker.name.toList, isNameChar c = true := by
  unfold read? at h
  split at h
  · dsimp only at h
    split at h
    · obtain ⟨rfl, -⟩ := Prod.mk.inj (Option.some.inj h)
      rw [String.toList_ofList]
      exact fun c hc => List.mem_takeWhile_imp hc
    · exact absurd h (by simp)
  · exact absurd h (by simp)

end Marker

/-- `Piece.cons` adds no marker. -/
theorem Piece.marker_mem_cons_iff {c : Char} {found : Marker} {pieces : List Piece} :
    Piece.marker found ∈ Piece.cons c pieces ↔ Piece.marker found ∈ pieces := by
  unfold Piece.cons
  split <;> simp

/-- A marker among the pieces of `ofChars` is one that `Marker.read?` finds at some place. -/
theorem Piece.exists_read?_of_mem_ofChars {chars : List Char} {found : Marker}
    (h : Piece.marker found ∈ Piece.ofChars chars) :
    ∃ front rest, Marker.read? front = some (found, rest) := by
  fun_induction Piece.ofChars chars with
  | case1 => exact absurd h (by simp)
  | case2 c rest first after hread ih =>
    rcases List.mem_cons.mp h with hfirst | hafter
    · obtain rfl := Piece.marker.inj hfirst
      exact ⟨c :: rest, after, hread⟩
    · exact ih hafter
  | case3 c rest hread ih => exact ih (Piece.marker_mem_cons_iff.mp h)

/-- The names of the `markers` of a body consist of characters with `isNameChar`. -/
theorem isNameChar_of_mem_markers {body : String} {found : PlacedMarker}
    (h : found ∈ markers body) : ∀ c ∈ found.1.name.toList, isNameChar c = true := by
  rw [markers_eq_filterMap] at h
  obtain ⟨placed, hplaced, hfound⟩ := List.mem_filterMap.mp h
  obtain rfl := Piece.eq_of_placedMarker?_eq_some hfound
  have hpiece : Piece.marker found.1 ∈ Piece.ofChars body.toList := by
    rw [← Piece.map_fst_placeFrom 0 (Piece.ofChars body.toList)]
    exact List.mem_map_of_mem hplaced
  obtain ⟨front, rest, hread⟩ := Piece.exists_read?_of_mem_ofChars hpiece
  exact Marker.isNameChar_of_read? hread

end MarkdownTemplate
