/-!
# Chained errors

An `Error` is a non-empty list of links, outermost first: what failed, then what caused it, and so
on. Each link is a `Detail`, a message with context pairs. Chaining puts one error behind another,
and `Error.display` shows a chain with every link indented by its depth.
-/

namespace MarkdownTemplate

/-- One link of an error: a message and the facts that go with it, each with or without a key. -/
structure Detail where
  /-- What went wrong. -/
  message : String
  /-- The facts that go with the message, in the order of their display. -/
  context : List (Option String × String) := []
deriving DecidableEq

/-- A chain of details, outermost first. -/
structure Error where
  /-- The detail that is reported first. -/
  outermost : Detail
  /-- The details behind it, each the cause of the one before. -/
  causes : List Detail := []
deriving DecidableEq

namespace Error

/-- The error of one link that has a message only. -/
def ofMessage (message : String) : Error :=
  ⟨⟨message, []⟩, []⟩

/-- The error of one link that shows `message` and lists the messages of its inner causes as facts
without keys. -/
def ofCauses (message : String) (causes : List String) : Error :=
  ⟨⟨message, causes.map fun cause => (none, cause)⟩, []⟩

/-- All links of the error, outermost first. -/
def links (error : Error) : List Detail :=
  error.outermost :: error.causes

/-- Places `error` behind `outer`: `outer` is reported first and `error` is its cause. -/
def chain (error outer : Error) : Error :=
  ⟨outer.outermost, outer.causes ++ error.links⟩

/-- Chaining joins the links, those of the outer error first. -/
@[simp]
theorem links_chain (error outer : Error) :
    (error.chain outer).links = outer.links ++ error.links := by
  simp [links, chain]

/-- An error is determined by its links. -/
theorem links_injective {left right : Error} (h : left.links = right.links) : left = right := by
  cases left
  cases right
  simp_all [links]

/-- The message of the outermost link. -/
def message (error : Error) : String :=
  error.outermost.message

/-- The facts of all links, outermost first. -/
def context (error : Error) : List (Option String × String) :=
  error.links.flatMap Detail.context

/-- The text with `indent` put after each of its line feeds. -/
def indentLines (indent : List Char) : List Char → List Char
  | [] => []
  | '\n' :: chars => '\n' :: indent ++ indentLines indent chars
  | c :: chars => c :: indentLines indent chars

/-- One fact on a line of its own, a key before its value. -/
def factLine (indent : List Char) (fact : Option String × String) : List Char :=
  let value := indentLines indent fact.2.toList
  match fact.1 with
  | some key => indent ++ key.toList ++ [':', ' '] ++ value ++ ['\n']
  | none => indent ++ value ++ ['\n']

/-- The lines of one link: its message, then its facts. -/
def detailLines (indent : List Char) (detail : Detail) : List Char :=
  indent ++ indentLines indent detail.message.toList ++ ['\n'] ++
    detail.context.flatMap (factLine indent)

/-- The lines of links of which the first has the given depth; a link is indented by four spaces for
each link before it. -/
def linkLines (depth : Nat) : List Detail → List Char
  | [] => []
  | detail :: details =>
    detailLines (List.replicate (4 * depth) ' ') detail ++ linkLines (depth + 1) details

/-- The lines of two groups of links are those of the first and, further in, those of the second. -/
theorem linkLines_append (depth : Nat) (left right : List Detail) :
    linkLines depth (left ++ right) =
      linkLines depth left ++ linkLines (depth + left.length) right := by
  induction left generalizing depth with
  | nil => simp [linkLines]
  | cons detail details ih =>
    simp [linkLines, ih, Nat.add_assoc, Nat.add_comm 1]

/-- The whole error as text, each link on lines of its own. -/
def display (error : Error) : String :=
  String.ofList (linkLines 0 error.links)

/-- Chains the failure of `result` behind `outer`; a success stays as it is. -/
def chainResult {α : Type} (result : Except Error α) (outer : Error) : Except Error α :=
  result.mapError (·.chain outer)

/-- Chains the failure of `result` behind the error that `outer` makes, which a success never asks
for. -/
def chainResultWith {α : Type} (result : Except Error α) (outer : Unit → Error) :
    Except Error α :=
  match result with
  | .ok value => .ok value
  | .error error => .error (error.chain (outer ()))

end Error

end MarkdownTemplate
