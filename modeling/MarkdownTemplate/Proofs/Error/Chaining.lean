import MarkdownTemplate.Error

/-!
# Chains of chains

An error can be seen as linked: it holds its own detail and the error behind it, if there is one.
To put an error behind a linked one is to walk to the innermost error and to put it there. This file
shows that, whatever the lengths of the two chains, walking comes to joining their links. So how
errors are grouped while they are chained leaves no trace in the chain.

* `LinkedError`: an error that holds the error behind it;
* `LinkedError.links_chain`: walking to the innermost error joins the links;
* `Error.linked_chain`: chains of links are chained as linked errors are;
* `Error.chaining_links`: the links, the message, the facts and the text of chains of chains.
-/

namespace MarkdownTemplate

/-- An error as a linked list, each link with the error that caused it. -/
inductive LinkedError where
  /-- The innermost error. -/
  | innermost (detail : Detail)
  /-- An error that `cause` stands behind. -/
  | causedBy (detail : Detail) (cause : LinkedError)

namespace LinkedError

/-- The details from the outermost link to the innermost. -/
def links : LinkedError → List Detail
  | innermost detail => [detail]
  | causedBy detail cause => detail :: cause.links

/-- Puts `error` behind the innermost link of the outer error. -/
def chain (error : LinkedError) : LinkedError → LinkedError
  | innermost detail => causedBy detail error
  | causedBy detail cause => causedBy detail (error.chain cause)

/-- The message of the outermost link. -/
def message : LinkedError → String
  | innermost detail => detail.message
  | causedBy detail _ => detail.message

/-- The facts of all links, from the outermost on. -/
def context : LinkedError → List (Option String × String)
  | innermost detail => detail.context
  | causedBy detail cause => detail.context ++ cause.context

/-- The lines of a linked error that has `depth` links in front of it. -/
def linesFrom (depth : Nat) : LinkedError → List Char
  | innermost detail => Error.detailLines (List.replicate (4 * depth) ' ') detail
  | causedBy detail cause =>
    Error.detailLines (List.replicate (4 * depth) ' ') detail ++ cause.linesFrom (depth + 1)

/-- `LinkedError.chain` appends the links of the inner error. -/
@[simp]
theorem links_chain (error outer : LinkedError) :
    (error.chain outer).links = outer.links ++ error.links := by
  induction outer with
  | innermost detail => rfl
  | causedBy detail cause ih => rw [chain, links, ih, links, List.cons_append]

theorem links_ne_nil (error : LinkedError) : error.links ≠ [] := by
  cases error <;> simp [links]

/-- `LinkedError.links` is injective. -/
theorem eq_of_links_eq {left right : LinkedError} (h : left.links = right.links) :
    left = right := by
  induction left generalizing right with
  | innermost detail =>
    cases right with
    | innermost other => rw [(List.cons.inj h).1]
    | causedBy other cause => exact absurd (List.cons.inj h).2.symm cause.links_ne_nil
  | causedBy detail cause ih =>
    cases right with
    | innermost other => exact absurd (List.cons.inj h).2 cause.links_ne_nil
    | causedBy other behind =>
      obtain ⟨rfl, hlinks⟩ := List.cons.inj h
      rw [ih hlinks]

theorem context_eq_flatMap (error : LinkedError) :
    error.context = error.links.flatMap Detail.context := by
  induction error with
  | innermost detail => simp [context, links]
  | causedBy detail cause ih => rw [context, ih, links, List.flatMap_cons]

theorem linesFrom_eq_linkLines (depth : Nat) (error : LinkedError) :
    error.linesFrom depth = Error.linkLines depth error.links := by
  induction error generalizing depth with
  | innermost detail => simp [linesFrom, links, Error.linkLines]
  | causedBy detail cause ih => rw [linesFrom, ih, links, Error.linkLines]

end LinkedError

namespace Error

/-- The linked error with the given links. -/
def link (detail : Detail) : List Detail → LinkedError
  | [] => .innermost detail
  | cause :: causes => .causedBy detail (link cause causes)

/-- `error` as a linked error. -/
def linked (error : Error) : LinkedError :=
  link error.outermost error.causes

theorem links_link (detail : Detail) (causes : List Detail) :
    (link detail causes).links = detail :: causes := by
  induction causes generalizing detail with
  | nil => rfl
  | cons cause causes ih => rw [link, LinkedError.links, ih]

@[simp]
theorem links_linked (error : Error) : error.linked.links = error.links :=
  links_link error.outermost error.causes

theorem links_ne_nil (error : Error) : error.links ≠ [] :=
  List.cons_ne_nil error.outermost error.causes

/-- `linked` turns `Error.chain` into `LinkedError.chain`. -/
theorem linked_chain (error outer : Error) :
    (error.chain outer).linked = error.linked.chain outer.linked := by
  apply LinkedError.eq_of_links_eq
  rw [links_linked, links_chain, LinkedError.links_chain, links_linked, links_linked]

theorem message_eq_linked (error : Error) : error.message = error.linked.message := by
  obtain ⟨detail, _ | ⟨cause, causes⟩⟩ := error <;> rfl

theorem context_eq_linked (error : Error) : error.context = error.linked.context := by
  rw [LinkedError.context_eq_flatMap, links_linked, context]

theorem display_eq_linked (error : Error) :
    error.display = String.ofList (error.linked.linesFrom 0) := by
  rw [LinkedError.linesFrom_eq_linkLines, links_linked, display]

/-- `Error.chain` is associative. -/
theorem chain_assoc (error middle outer : Error) :
    (error.chain middle).chain outer = error.chain (middle.chain outer) := by
  apply links_injective
  simp only [links_chain, List.append_assoc]

/-- `Error.chain` concatenates `links`, the outer ones first, and agrees with the recursive
`LinkedError.chain`. `message`, `context` and `display` of an error are those of `linked`. So
chaining is associative, `context` is concatenated, and `message` is the outer one. `chainResult`
and `chainResultWith` agree: they chain the error of a result that failed, and keep every other
result. -/
theorem chaining_links (first second third : Error) :
    ((first.chain second).links = second.links ++ first.links ∧ first.links ≠ []) ∧
    ((first.chain second).linked = first.linked.chain second.linked ∧
      ∀ error : Error, error.linked.links = error.links ∧
        error.message = error.linked.message ∧ error.context = error.linked.context ∧
        error.display = String.ofList (error.linked.linesFrom 0)) ∧
    (let left := (first.chain second).chain third
      let right := first.chain (second.chain third)
      left = right ∧ left.message = right.message ∧ left.context = right.context ∧
        left.display = right.display) ∧
    (first.chain second).context = second.context ++ first.context ∧
    (first.chain second).message = second.message ∧
    ∀ {ε α : Type} (toError : ε → Error) (outer : Unit → Error) (result : Except ε α),
      let chained := chainResult (result.mapError toError) (outer ())
      chained = chainResultWith (result.mapError toError) outer ∧
        (∀ failure, result = .error failure →
          chained = .error ((toError failure).chain (outer ()))) ∧
        ∀ value, result = .ok value → chained = .ok value := by
  refine ⟨⟨links_chain first second, first.links_ne_nil⟩, ⟨linked_chain first second, ?_⟩, ?_, ?_,
    rfl, ?_⟩
  · intro error
    exact ⟨error.links_linked, error.message_eq_linked, error.context_eq_linked,
      error.display_eq_linked⟩
  · intro left right
    have hsame : left = right := chain_assoc first second third
    rw [hsame]
    exact ⟨rfl, rfl, rfl, rfl⟩
  · rw [context, links_chain, List.flatMap_append, context, context]
  · intro ε α toError outer result chained
    refine ⟨?_, ?_, ?_⟩
    · cases result <;> rfl
    · rintro failure rfl
      rfl
    · rintro value rfl
      rfl

/-- Two chains of two links each, of which one shows the causes that it has inside. -/
example :
    let inner := (ofCauses "disk on fire" ["smoke"]).chain (ofMessage "cannot read")
    let outer := (ofMessage "cannot load").chain ⟨⟨"no page", [(some "path", "a.md")]⟩, []⟩
    (inner.chain outer).display =
      "no page\npath: a.md\n    cannot load\n" ++
        "        cannot read\n            disk on fire\n            smoke\n" := by
  decide +kernel

end Error

end MarkdownTemplate
