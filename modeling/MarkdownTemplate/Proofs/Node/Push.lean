import MarkdownTemplate.Render

/-!
# Appending nodes

Nodes are appended so that text never stands next to text. This file shows that joining texts is
harmless: whatever is read off nodes one by one, and off a text character by character, is read off
the same way before and after.

* `push_cases`: what appending a node can do;
* `pushAll_push` and `pushAll_pushAll`: what is appended to nodes before or after they are appended
  themselves;
* `flatMap_push` and `flatMap_pushAll`: a reading that may be cut anywhere inside a text does not
  see where texts are joined;
* `renderAll_pushAll`: rendering is such a reading.
-/

namespace MarkdownTemplate

namespace Node

/-- The last of `nodes` is a text. -/
def EndsInText (nodes : List Node) : Prop :=
  ∃ init last, nodes = init ++ [text last]

@[simp]
theorem pushText_empty (nodes : List Node) : pushText nodes "" = nodes := by
  unfold pushText
  simp

/-- `pushText` extends a text at the end. -/
theorem pushText_concat_text (nodes : List Node) (last added : String) :
    pushText (nodes ++ [text last]) added = nodes ++ [text (last ++ added)] := by
  by_cases hadded : added = ""
  · rw [hadded, pushText_empty, String.append_empty]
  · induction nodes with
    | nil => simp [pushText, hadded]
    | cons node nodes ih =>
      -- the nodes after the first are not empty, so the first is not the text at the end
      obtain ⟨second, rest, hrest⟩ : ∃ second rest, nodes ++ [text last] = second :: rest :=
        List.exists_cons_of_ne_nil (by simp)
      rw [List.cons_append, hrest, pushText, if_neg hadded]
      · rw [← hrest, ih, List.cons_append]
      · intro _ _ hempty
        exact List.cons_ne_nil second rest hempty

/-- `pushText` adds a node for a non-empty text if `nodes` does not end in a text. -/
theorem pushText_of_not_endsInText {nodes : List Node} {added : String}
    (hend : ¬ EndsInText nodes) (hadded : added ≠ "") :
    pushText nodes added = nodes ++ [text added] := by
  induction nodes with
  | nil => simp [pushText, hadded]
  | cons node nodes ih =>
    have htail : ¬ EndsInText nodes := by
      rintro ⟨init, last, rfl⟩
      exact hend ⟨node :: init, last, rfl⟩
    have hhead : ∀ last, node = text last → nodes ≠ [] := by
      rintro last rfl rfl
      exact hend ⟨[], last, rfl⟩
    rw [pushText, if_neg hadded]
    · rw [ih htail, List.cons_append]
    · intro last hnode hnodes
      exact hhead last hnode hnodes

/-- Two calls of `pushText` are one with the joined text. -/
theorem pushText_pushText (nodes : List Node) (first second : String) :
    pushText (pushText nodes first) second = pushText nodes (first ++ second) := by
  by_cases hend : EndsInText nodes
  · obtain ⟨init, last, rfl⟩ := hend
    simp only [pushText_concat_text, String.append_assoc]
  · by_cases hfirst : first = ""
    · rw [hfirst, pushText_empty, String.empty_append]
    -- the first text becomes a node of its own, which the second joins
    · have hboth : first ++ second ≠ "" := by simp [hfirst]
      rw [pushText_of_not_endsInText hend hfirst, pushText_concat_text,
        pushText_of_not_endsInText hend hboth]

@[simp]
theorem push_text (nodes : List Node) (added : String) :
    push nodes (text added) = pushText nodes added := rfl

/-- The cases of `push`: empty text is dropped, text joins a text at the end, and any other node is
put at the end. -/
theorem push_cases (nodes : List Node) (node : Node) :
    (node = text "" ∧ push nodes node = nodes) ∨
      (∃ init last added, nodes = init ++ [text last] ∧ node = text added ∧
        push nodes node = init ++ [text (last ++ added)]) ∨
      push nodes node = nodes ++ [node] := by
  cases node with
  | reference target marker => exact Or.inr (Or.inr rfl)
  | block control content => exact Or.inr (Or.inr rfl)
  | text added =>
    rw [push_text]
    by_cases hend : EndsInText nodes
    · obtain ⟨init, last, rfl⟩ := hend
      exact Or.inr (Or.inl ⟨init, last, added, rfl, rfl, pushText_concat_text init last added⟩)
    · by_cases hadded : added = ""
      · rw [hadded]
        exact Or.inl ⟨rfl, pushText_empty nodes⟩
      · exact Or.inr (Or.inr (pushText_of_not_endsInText hend hadded))

theorem length_le_length_push (nodes : List Node) (node : Node) :
    nodes.length ≤ (push nodes node).length := by
  rcases push_cases nodes node with ⟨rfl, hpush⟩ | ⟨init, last, added, rfl, rfl, hpush⟩ | hpush
  · exact Nat.le_of_eq (congrArg List.length hpush.symm)
  · simp [hpush]
  · simp [hpush]

@[simp]
theorem pushAll_nil (nodes : List Node) : pushAll nodes [] = nodes := rfl

@[simp]
theorem pushAll_cons (nodes : List Node) (node : Node) (added : List Node) :
    pushAll nodes (node :: added) = pushAll (push nodes node) added := rfl

theorem pushAll_append (nodes first second : List Node) :
    pushAll nodes (first ++ second) = pushAll (pushAll nodes first) second :=
  List.foldl_append

/-- `pushAll` of a `push` is a `push` after a `pushAll`. -/
theorem pushAll_push (nodes added : List Node) (node : Node) :
    pushAll nodes (push added node) = push (pushAll nodes added) node := by
  rcases push_cases added node with ⟨rfl, hpush⟩ | ⟨init, joined, last, rfl, rfl, hpush⟩ | hpush
  · rw [hpush, push_text, pushText_empty]
  -- the text joins one that itself joins what is before it
  · rw [hpush]
    simp only [pushAll_append, pushAll_cons, pushAll_nil, push_text, pushText_pushText]
  · rw [hpush, pushAll_append]
    rfl

/-- `pushAll` is associative. -/
theorem pushAll_pushAll (before nodes added : List Node) :
    pushAll before (pushAll nodes added) = pushAll (pushAll before nodes) added := by
  induction added generalizing nodes with
  | nil => rfl
  | cons node added ih => rw [pushAll_cons, ih, pushAll_push, pushAll_cons]

section Reading

variable {α : Type} {read : Node → List α}

/-- A function `readAll` that goes from node to node is a `flatMap`. -/
theorem eq_flatMap_of_cons (readAll : List Node → List α) (hnil : readAll [] = [])
    (hcons : ∀ node nodes, readAll (node :: nodes) = read node ++ readAll nodes)
    (nodes : List Node) : readAll nodes = nodes.flatMap read := by
  induction nodes with
  | nil => exact hnil
  | cons node nodes ih => rw [hcons, ih, List.flatMap_cons]

/-- A function `readAll` that goes from node to node turns `++` into `++`. -/
theorem append_of_cons (readAll : List Node → List α) (read : Node → List α)
    (hnil : readAll [] = [])
    (hcons : ∀ node nodes, readAll (node :: nodes) = read node ++ readAll nodes)
    (first second : List Node) : readAll (first ++ second) = readAll first ++ readAll second := by
  have hall := eq_flatMap_of_cons readAll hnil hcons
  rw [hall, hall, hall, List.flatMap_append]

/-- `read` of a joined text is `read` of its two parts. -/
def CutsText (read : Node → List α) : Prop :=
  ∀ first second, read (text (first ++ second)) = read (text first) ++ read (text second)

theorem CutsText.read_empty (hread : CutsText read) : read (text "") = [] := by
  have htwice := congrArg List.length (hread "" "")
  rw [String.append_empty, List.length_append] at htwice
  exact List.eq_nil_of_length_eq_zero (by omega)

/-- A `read` with `CutsText` does not see whether `push` joins texts. -/
theorem flatMap_push (hread : CutsText read) (nodes : List Node) (node : Node) :
    (push nodes node).flatMap read = nodes.flatMap read ++ read node := by
  rcases push_cases nodes node with ⟨rfl, hpush⟩ | ⟨init, last, added, rfl, rfl, hpush⟩ | hpush
  · rw [hpush, hread.read_empty, List.append_nil]
  · rw [hpush]
    simp [hread last added]
  · rw [hpush, List.flatMap_append, List.flatMap_singleton]

/-- A `read` with `CutsText` does not see whether `pushAll` joins texts. -/
theorem flatMap_pushAll (hread : CutsText read) (nodes added : List Node) :
    (pushAll nodes added).flatMap read = nodes.flatMap read ++ added.flatMap read := by
  induction added generalizing nodes with
  | nil => simp
  | cons node added ih =>
    rw [pushAll_cons, ih, flatMap_push hread, List.flatMap_cons, List.append_assoc]

end Reading

end Node

theorem toList_renderAll (value? : String → Option String) (nodes : List Node) :
    (renderAll value? nodes).toList =
      nodes.flatMap fun node => (node.renderWith value?).toList :=
  Node.eq_flatMap_of_cons (fun nodes => (renderAll value? nodes).toList) rfl
    (fun _ _ => String.toList_append) nodes

theorem renderAll_append (value? : String → Option String) (first second : List Node) :
    renderAll value? (first ++ second) = renderAll value? first ++ renderAll value? second := by
  apply String.toList_injective
  rw [String.toList_append]
  simp only [toList_renderAll, List.flatMap_append]

theorem cutsText_renderWith (value? : String → Option String) :
    Node.CutsText fun node => (node.renderWith value?).toList := by
  intro first second
  simp [Node.renderWith]

/-- `pushAll` renders as `++` does. -/
theorem renderAll_pushAll (value? : String → Option String) (nodes added : List Node) :
    renderAll value? (Node.pushAll nodes added) =
      renderAll value? nodes ++ renderAll value? added := by
  apply String.toList_injective
  rw [String.toList_append]
  simp only [toList_renderAll]
  exact Node.flatMap_pushAll (cutsText_renderWith value?) nodes added

/-- `pushText` renders as `++` does. -/
theorem renderAll_pushText (value? : String → Option String) (nodes : List Node) (added : String) :
    renderAll value? (Node.pushText nodes added) = renderAll value? nodes ++ added := by
  have hpush := renderAll_pushAll value? nodes [.text added]
  rwa [Node.pushAll_cons, Node.pushAll_nil, Node.push_text, renderAll, renderAll,
    Node.renderWith, String.append_empty] at hpush

end MarkdownTemplate
