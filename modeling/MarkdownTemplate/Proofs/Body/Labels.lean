import MarkdownTemplate.Proofs.Body.Outline

/-!
# Changing labels

What a body's blocks are does not depend on the labels of its pieces: to read pieces and change
their labels afterwards is to read pieces with changed labels.

* `Outline.map_read` and `Outline.map_foldl_read`: labels may be changed before or after reading;
* `Forest.map_congr`: only the labels of leaves matter.
-/

namespace MarkdownTemplate

variable {α β γ : Type}

namespace Forest

/-- The forest with `change` applied to its labels. -/
def map (change : α → β) : Forest α → Forest β
  | nil => nil
  | leaf placed label rest => leaf placed (change label) (rest.map change)
  | block opening content closing rest =>
    block opening (content.map change) closing (rest.map change)

@[simp]
theorem map_append (change : α → β) (first second : Forest α) :
    (first ++ second).map change = first.map change ++ second.map change := by
  induction first with
  | nil => rfl
  | leaf placed label rest ih => simp only [leaf_append, map, ih]
  | block opening content closing rest _ ih => simp only [block_append, map, ih]

theorem map_map (change : α → β) (again : β → γ) (forest : Forest α) :
    (forest.map change).map again = forest.map fun label => again (change label) := by
  induction forest with
  | nil => rfl
  | leaf placed label rest ih => simp only [map, ih]
  | block opening content closing rest ihContent ihRest => simp only [map, ihContent, ihRest]

/-- `map` depends only on the labels of leaves. -/
theorem map_congr {change other : α → β} {forest : Forest α}
    (h : ∀ leaf ∈ forest.leaves, change leaf.2 = other leaf.2) :
    forest.map change = forest.map other := by
  induction forest with
  | nil => rfl
  | leaf placed label rest ih =>
    rw [leaves, List.forall_mem_cons] at h
    rw [map, map, ih h.2, h.1]
  | block opening content closing rest ihContent ihRest =>
    simp only [leaves, List.forall_mem_append] at h
    rw [map, map, ihContent h.1, ihRest h.2]

theorem leaves_map (change : α → β) (forest : Forest α) :
    (forest.map change).leaves = forest.leaves.map (Prod.map id change) := by
  induction forest with
  | nil => rfl
  | leaf placed label rest ih => simp [map, leaves, ih]
  | block opening content closing rest ihContent ihRest =>
    simp only [map, leaves, ihContent, ihRest, List.map_append]

end Forest

/-- The block with `change` applied to its labels. -/
def Opened.map (change : α → β) (opened : Opened α) : Opened β :=
  ⟨opened.opening, change opened.label, opened.content.map change⟩

namespace Outline

/-- The outline with `change` applied to its labels. -/
def map (change : α → β) (outline : Outline α) : Outline β :=
  ⟨outline.root.map change, outline.opened.map (Opened.map change)⟩

variable (change : α → β) (outline : Outline α)

@[simp]
theorem map_add (added : Forest α) :
    (outline.add added).map change = (outline.map change).add (added.map change) := by
  obtain ⟨root, opened⟩ := outline
  cases opened with
  | nil => simp [add, map]
  | cons innermost outer => simp [add, map, Opened.map]

/-- `map` commutes with `read`, which does not look at labels. -/
theorem map_read (entry : PlacedPiece × α) :
    (outline.read entry).map change = (outline.map change).read (Prod.map id change entry) := by
  obtain ⟨⟨piece, span⟩, label⟩ := entry
  cases piece with
  | text chars => exact map_add change outline _
  | marker marker =>
    change _ = (outline.map change).read ((.marker marker, span), change label)
    -- both sides look at the same markers, so they take the same branch
    rw [read, read]
    split
    · rfl
    · obtain ⟨root, opened⟩ := outline
      cases opened with
      | nil => exact map_add change ⟨root, []⟩ _
      | cons innermost outer =>
        simp only [map, List.map_cons, Opened.map]
        split
        · exact map_add change ⟨root, outer⟩ _
        · exact map_add change ⟨root, innermost :: outer⟩ _

/-- `map` commutes with a run of `read`. -/
theorem map_foldl_read (entries : List (PlacedPiece × α)) :
    (entries.foldl read outline).map change =
      (entries.map (Prod.map id change)).foldl read (outline.map change) := by
  induction entries generalizing outline with
  | nil => rfl
  | cons entry entries ih => rw [List.foldl_cons, ih, map_read, List.map_cons, List.foldl_cons]

end Outline

end MarkdownTemplate
