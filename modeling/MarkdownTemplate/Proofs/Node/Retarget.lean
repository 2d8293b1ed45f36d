import MarkdownTemplate.Proofs.Node.Push

/-!
# Changing the variables of references

References know their variables. `Node.retarget` changes these variables and nothing else, so nodes
can be compared up to what is not known of a variable.

* `Node.retarget_push` and `Node.retarget_pushAll`: variables may be changed before or after nodes
  are appended;
* `renderAll_retarget`: rendering looks only at the names of variables.
-/

namespace MarkdownTemplate

mutual

/-- The node with `change` applied to its variables. -/
def Node.retargetIn (change : Variable → Variable) : Node → Node
  | .text written => .text written
  | .reference target marker => .reference (change target) marker
  | .block control content => .block control (Node.retarget change content)
termination_by structural node => node

/-- The nodes with `change` applied to their variables, at any depth. -/
def Node.retarget (change : Variable → Variable) : List Node → List Node
  | [] => []
  | node :: nodes => node.retargetIn change :: Node.retarget change nodes
termination_by structural nodes => nodes

end

namespace Node

variable (change : Variable → Variable)

theorem retarget_append (first second : List Node) :
    retarget change (first ++ second) = retarget change first ++ retarget change second :=
  append_of_cons (retarget change) (fun node => [node.retargetIn change]) rfl (fun _ _ => rfl)
    first second

theorem retarget_concat (nodes : List Node) (node : Node) :
    retarget change (nodes ++ [node]) = retarget change nodes ++ [node.retargetIn change] :=
  retarget_append change nodes [node]

theorem not_endsInText_retarget {nodes : List Node} (hend : ¬ EndsInText nodes) :
    ¬ EndsInText (retarget change nodes) := by
  rcases List.eq_nil_or_concat nodes with rfl | ⟨init, last, rfl⟩
  · exact hend
  · rintro ⟨before, written, heq⟩
    rw [List.concat_eq_append, retarget_concat] at heq
    rw [List.concat_eq_append] at hend
    have hlast := List.cons.inj (List.append_inj' heq rfl).2
    cases last with
    | text written => exact hend ⟨init, written, rfl⟩
    | reference target marker => exact absurd hlast.1 (by simp [retargetIn])
    | block control content => exact absurd hlast.1 (by simp [retargetIn])

theorem retarget_pushText (nodes : List Node) (added : String) :
    retarget change (pushText nodes added) = pushText (retarget change nodes) added := by
  by_cases hend : EndsInText nodes
  · obtain ⟨init, last, rfl⟩ := hend
    rw [pushText_concat_text, retarget_concat, retarget_concat]
    exact (pushText_concat_text _ last added).symm
  · by_cases hadded : added = ""
    · rw [hadded, pushText_empty, pushText_empty]
    · rw [pushText_of_not_endsInText hend hadded, retarget_concat,
        pushText_of_not_endsInText (not_endsInText_retarget change hend) hadded]
      rfl

/-- `retarget` commutes with `push`. -/
theorem retarget_push (nodes : List Node) (node : Node) :
    retarget change (push nodes node) = push (retarget change nodes) (node.retargetIn change) := by
  cases node with
  | text added => exact retarget_pushText change nodes added
  | reference target marker => exact retarget_concat change nodes _
  | block control content => exact retarget_concat change nodes _

/-- `retarget` commutes with `pushAll`. -/
theorem retarget_pushAll (nodes added : List Node) :
    retarget change (pushAll nodes added) =
      pushAll (retarget change nodes) (retarget change added) := by
  induction added generalizing nodes with
  | nil => rfl
  | cons node added ih => rw [pushAll_cons, ih, retarget_push, retarget, pushAll_cons]

end Node

section Render

variable {change : Variable → Variable} (value? : String → Option String)

mutual

theorem renderWith_retargetIn (hname : ∀ target, (change target).name = target.name)
    (node : Node) : (node.retargetIn change).renderWith value? = node.renderWith value? := by
  cases node with
  | text written => rfl
  | reference target marker => rw [Node.retargetIn, Node.renderWith, Node.renderWith, hname]
  | block control content =>
    rw [Node.retargetIn, Node.renderWith, Node.renderWith, renderAll_retarget hname content]

/-- `retarget` does not change the rendered text if `change` keeps names. -/
theorem renderAll_retarget (hname : ∀ target, (change target).name = target.name)
    (nodes : List Node) :
    renderAll value? (Node.retarget change nodes) = renderAll value? nodes := by
  cases nodes with
  | nil => rfl
  | cons node nodes =>
    rw [Node.retarget, renderAll, renderAll, renderWith_retargetIn hname node,
      renderAll_retarget hname nodes]

end

end Render

end MarkdownTemplate
